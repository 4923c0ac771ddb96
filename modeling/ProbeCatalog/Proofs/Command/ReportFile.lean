import ProbeCatalog.Proofs.Command.Scans
import ProbeCatalog.Proofs.Provider.Origins

/-!
# The file of a report

The file that a scan leaves behind is read as JSON: an entry for each provider in the order in which
they were found, an entry for each error, and in the entry of a provider that its canonical text
declares a record that reads back as this provider.
-/
namespace ProbeCatalog

open Json

/-- The value is an object and the field holds the other value. -/
def Json.Has (v : Json) (name : String) (w : Json) : Prop :=
  ∃ fields, v = .object fields ∧ Json.field? name fields = some w

lemma Record.has_sorted (fields : List (String × Json)) (h : (fields.map (·.1)).Nodup)
    (name : String) (v : Json) (hv : (name, v) ∈ fields) :
    Has (Json.object (named fields)).sorted name v.sorted :=
  ⟨_, sorted_named fields, field?_sorted fields h name v hv⟩

/-- The canonical text declares one class, and this class has the name of the provider. -/
def Provider.Declared (p : Provider) : Prop :=
  ∃ c, Declaration.parse p.canonicalText.toList = .ok c ∧ Name.ofClass c.value.name = p.name

namespace Report

/-- The entry tells where the provider was found and what its name is. From its record the provider
is read back if its canonical text declares it. -/
structure EntryOf (d : Discovered) (entry : Json) : Prop where
  file : Has entry "file_path" (.string d.file)
  line : Has entry "lineno" (.integer d.line)
  uniqueName : Has entry "unique_name" (.string d.provider.uniqueName)
  spec : ∃ spec, Has entry "spec" spec ∧
    (d.provider.Declared → ∃ q, Record.toProvider spec = .ok q ∧ q.same d.provider = true)

/-- The entry tells of the error. -/
structure FaultOf (e : FileError) (entry : Json) : Prop where
  file : Has entry "file_path" (.string e.file)
  message : Has entry "message" (.string e.message)

/-! ### Fields -/

/-- The fields of a provider that was found. -/
def discoveredFields (d : Discovered) : List (String × Json) :=
  [("file_path", .string d.file), ("lineno", .integer d.line),
    ("unique_name", .string d.provider.uniqueName), ("spec", Record.ofProvider d.provider)]

/-- The fields of an error. -/
def errorFields (e : FileError) : List (String × Json) :=
  [("file_path", .string e.file), ("message", .string e.message)]

/-- The fields of a report. -/
def scanFields (found : List Discovered) (errors : List FileError) : List (String × Json) :=
  [("providers", .array (found.map ofDiscovered)), ("errors", .array (errors.map ofError))]

lemma entryOf_sorted {d : Discovered} (hfits : d.provider.Fits) :
    EntryOf d (ofDiscovered d).sorted := by
  have hfields : ofDiscovered d = .object (Record.named (discoveredFields d)) := rfl
  have hfield := Record.has_sorted (discoveredFields d) (by simp [discoveredFields])
  rw [hfields]
  refine {
    file := hfield "file_path" (.string d.file) (by simp [discoveredFields])
    line := hfield "lineno" (.integer d.line) (by simp [discoveredFields])
    uniqueName := hfield "unique_name" (.string d.provider.uniqueName) (by simp [discoveredFields])
    spec := ⟨_, hfield "spec" (Record.ofProvider d.provider) (by simp [discoveredFields]), ?_⟩ }
  intro hdeclared
  obtain ⟨c, hc⟩ := Record.toProvider_wellFormed ⟨hdeclared, hfits.hash⟩
  exact ⟨_, hc, by simp [Provider.same]⟩

lemma faultOf_sorted (e : FileError) : FaultOf e (ofError e).sorted := by
  have hfields : ofError e = .object (Record.named (errorFields e)) := rfl
  have hfield := Record.has_sorted (errorFields e) (by simp [errorFields])
  rw [hfields]
  exact ⟨hfield "file_path" (.string e.file) (by simp [errorFields]),
    hfield "message" (.string e.message) (by simp [errorFields])⟩

/-! ### Reading the report -/

lemma storable_ofDiscovered {d : Discovered} (hscalar : d.provider.IsScalar)
    (hline : d.line < 10 ^ maxDigits) : (ofDiscovered d).Storable := by
  have htext (s : String) : (Json.string (Text.ofString s)).Storable :=
    Record.storable_text ⟨_, rfl⟩
  have hfields : ∀ f ∈ discoveredFields d, f.2.Storable := by
    simp only [discoveredFields, List.forall_mem_cons]
    exact ⟨htext _, .integer _ hline, htext _, Record.storable_ofProvider hscalar, nofun⟩
  exact Record.storable_named (by simp [discoveredFields]) hfields

lemma storable_ofError (e : FileError) : (ofError e).Storable := by
  have hfields : ∀ f ∈ errorFields e, f.2.Storable := by
    simp only [errorFields, List.forall_mem_cons]
    exact ⟨Record.storable_text ⟨_, rfl⟩, Record.storable_text ⟨_, rfl⟩, nofun⟩
  exact Record.storable_named (by simp [errorFields]) hfields

lemma storable_ofScan {found : List Discovered} (errors : List FileError)
    (hfound : ∀ d ∈ found, Provider.Extracted d.provider) (hwritable : isWritable found = true) :
    (ofScan found errors).Storable := by
  have hlines : ∀ d ∈ found, d.line < 10 ^ maxDigits := by
    have hpower (n : ℕ) : Nat.pow 10 n = 10 ^ n := rfl
    intro d hd
    rw [isWritable, List.all_eq_true] at hwritable
    have hline := hwritable d hd
    rwa [decide_eq_true_eq, hpower] at hline
  have hfields : ∀ f ∈ scanFields found errors, f.2.Storable := by
    simp only [scanFields, List.forall_mem_cons]
    exact ⟨.array (List.forall_mem_map.mpr fun d hd =>
        storable_ofDiscovered (hfound d hd).isScalar (hlines d hd)),
      .array (List.forall_mem_map.mpr fun e _ => storable_ofError e), nofun⟩
  exact Record.storable_named (by simp [scanFields]) hfields

lemma forall₂_sortedItems {α : Type} {write : α → Json} {tells : α → Json → Prop} {as : List α}
    (h : ∀ a ∈ as, tells a (write a).sorted) :
    List.Forall₂ tells as (sortedItems (as.map write)) := by
  rw [sortedItems_eq_map, List.map_map, List.forall₂_map_right_iff]
  exact List.forall₂_same.mpr h

/-- What is read from a written report. -/
lemma read_pretty_ofScan {found : List Discovered} (errors : List FileError)
    (hfound : ∀ d ∈ found, Provider.Extracted d.provider) (hwritable : isWritable found = true) :
    ∃ report entries faults, Json.read (pretty (ofScan found errors)).toList = .ok report ∧
      Has report "providers" (.array entries) ∧ List.Forall₂ EntryOf found entries ∧
      Has report "errors" (.array faults) ∧ List.Forall₂ FaultOf errors faults := by
  have hfields : ofScan found errors = .object (Record.named (scanFields found errors)) := rfl
  have hfield := Record.has_sorted (scanFields found errors) (by simp [scanFields])
  have hproviders := hfield "providers" (.array (found.map ofDiscovered)) (by simp [scanFields])
  have herrors := hfield "errors" (.array (errors.map ofError)) (by simp [scanFields])
  have hread := read_pretty (storable_ofScan errors hfound hwritable)
  refine ⟨_, _, _, hread, hproviders, ?_, herrors, ?_⟩
  · exact forall₂_sortedItems fun d hd => entryOf_sorted (hfound d hd).fits
  · exact forall₂_sortedItems fun e _ => faultOf_sorted e

end Report

namespace Command

/-- The file that a successful run leaves behind holds a JSON object. Its providers are those that
were found, in order, each with its place, its unique name and a record that reads back as the
provider if its canonical text declares it; its errors are those of the analysis, in order. -/
theorem report_file_tells {d d' : Disk} {words markers : List String} {path file : String}
    {cache : Option String} {o : Outcome}
    (hrequest : request? words = some (.scan path .json (some file) cache markers))
    (hrun : run d words = (d', .ok o)) (hcode : o.code = 0) :
    ∃ project found errors, d.entry? (Route.ofText path.toList) = some project ∧
      Analysis.analyze (analyzerFor markers) (Route.ofText path.toList) project =
        .ok (found, errors) ∧
      ∃ octets text report entries faults,
        d'.entry? (Route.ofText file.toList) = some (.file octets) ∧
        Utf8.decode octets = .ok text ∧ Json.read text = .ok report ∧
        Has report "providers" (.array entries) ∧ List.Forall₂ Report.EntryOf found entries ∧
        Has report "errors" (.array faults) ∧ List.Forall₂ Report.FaultOf errors faults := by
  obtain ⟨found, errors, ⟨project, hentry, hanalyze⟩, hwritable, hfile⟩ :=
    written_of_run hrequest hrun hcode
  obtain ⟨report, entries, faults, hread, htells⟩ :=
    Report.read_pretty_ofScan errors (fun d hd => .analyze hanalyze hd) hwritable
  exact ⟨project, found, errors, hentry, hanalyze, _, _, report, entries, faults, hfile,
    Utf8.decode_encode _, hread, htells⟩

/-- A project with one provider. -/
def clockTree : Entry :=
  .directory [("clock.py", .file (Utf8.encode "@tracer\nclass Clock:\n    pass\n".toList))]

def clockProject : Disk := ⟨.directory [("p", clockTree)], []⟩

theorem report_file_tells_clock :
    ∃ octets text report entry,
      Disk.entry? (run clockProject writing).1 (Route.ofText "out.json".toList) =
        some (.file octets) ∧
      Utf8.decode octets = .ok text ∧ Json.read text = .ok report ∧
      Has report "providers" (.array [entry]) ∧ Has entry "file_path" (.string "clock.py") ∧
      Has entry "lineno" (.integer 2) ∧ Has report "errors" (.array []) := by
  have hcode : (run clockProject writing).2.toOption.map (·.code) = some 0 := by decide +kernel
  have hanalysis : (Analysis.analyze (analyzerFor []) (Route.ofText "p".toList)
      clockTree).toOption.map
        (fun result => (result.1.map fun d => (d.file, d.line), result.2)) =
          some ([("clock.py", 2)], []) := by decide +kernel
  obtain ⟨d', o, hrun, hzero⟩ := exists_of_code hcode
  obtain ⟨project, found, errors, hentry, hanalyze, octets, text, report, entries, faults, hfile,
    hdecode, hread, hproviders, hentries, herrors, hfaults⟩ :=
      report_file_tells request?_writing hrun hzero
  obtain rfl : clockTree = project := Option.some.inj hentry
  obtain ⟨_, heq, hanalysis⟩ := toOption_map_eq_some.mp hanalysis
  obtain rfl := Except.ok.inj (hanalyze.symm.trans heq)
  simp only [Prod.mk.injEq, List.map_eq_singleton_iff] at hanalysis
  obtain ⟨⟨d, rfl, hname, hline⟩, rfl⟩ := hanalysis
  obtain ⟨entry, _, htells, hnil, rfl⟩ := List.forall₂_cons_left_iff.mp hentries
  obtain rfl := List.forall₂_nil_left_iff.mp hnil
  obtain rfl := List.forall₂_nil_left_iff.mp hfaults
  exact ⟨octets, text, report, entry, by rwa [hrun], hdecode, hread, hproviders,
    hname ▸ htells.file, by simpa [hline] using htells.line, herrors⟩

end Command

end ProbeCatalog
