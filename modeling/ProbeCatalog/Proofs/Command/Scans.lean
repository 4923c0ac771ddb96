import ProbeCatalog.Command.Run
import ProbeCatalog.Proofs.Outcome
import ProbeCatalog.Proofs.Project.Placing

/-!
# Scans that succeed

A scan with a JSON report ends with code zero only if the project is there and can be analyzed, and
the report of what was found is printed, or stands in its file.
-/
namespace ProbeCatalog.Command

variable {d d' : Disk} {words : List String} {path : String} {form : Form}
  {output cache : Option String} {markers : List String} {found : List Discovered}
  {errors : List FileError} {messages : String} {o : Outcome}

/-- What the analysis of the project at a path finds. -/
def Finds (d : Disk) (path : String) (markers : List String) (found : List Discovered)
    (errors : List FileError) : Prop :=
  ∃ project, d.entry? (Route.ofText path.toList) = some project ∧
    Analysis.analyze (analyzerFor markers) (Route.ofText path.toList) project = .ok (found, errors)

lemma Finds.unique {found' : List Discovered} {errors' : List FileError}
    (h : Finds d path markers found errors) (h' : Finds d path markers found' errors') :
    found = found' ∧ errors = errors' := by
  obtain ⟨project, hentry, hanalyze⟩ := h
  obtain ⟨project', hentry', hanalyze'⟩ := h'
  obtain rfl := Option.some.inj (hentry.symm.trans hentry')
  rw [hanalyze] at hanalyze'
  simpa using hanalyze'

lemma run_eq {request : Request} (h : request? words = some request) :
    run d words = perform d request := by
  rw [run, h]

lemma exists_of_code {code : Nat} (h : (run d words).2.toOption.map (·.code) = some code) :
    ∃ d' o, run d words = (d', .ok o) ∧ o.code = code := by
  obtain ⟨o, ho, hcode⟩ := toOption_map_eq_some.mp h
  exact ⟨(run d words).1, o, Prod.ext rfl ho, hcode⟩

/-- A scan that succeeds comes to its report. -/
lemma reported_of_scan (h : scan d path form output cache markers = (d', .ok o))
    (hcode : o.code = 0) : ∃ found errors made messages, Finds d path markers found errors ∧
      report made form output found errors messages = (d', .ok o) := by
  have hrefused {code : Nat} {made : Disk} {t : Text} (hne : code ≠ 0)
      (h : (made, .ok (refusal code t)) = (d', (.ok o : Except Fault Outcome))) : False := by
    cases h
    exact hne hcode
  rw [scan] at h
  split at h
  · exact (hrefused (by decide) h).elim
  · rename_i project hentry
    split at h
    · cases h
    · rename_i found errors hanalyze
      dsimp only at h
      split at h
      · cases h
      · exact (hrefused (by decide) h).elim
      · exact ⟨found, errors, _, _, ⟨project, hentry, hanalyze⟩, h⟩

/-- A line number that cannot be written ends the report. -/
lemma isWritable_of_report (h : report d form output found errors messages = (d', .ok o))
    (hcode : o.code = 0) : Report.isWritable found = true := by
  by_contra hlong
  rw [report.eq_def, if_pos (by simpa using hlong), unreported.eq_def] at h
  split at h
  · dsimp only at h
    split at h
    · cases h
    · cases h
      exact absurd hcode (by decide : badUse ≠ 0)
  · cases h

lemma report_printed (h : report d .json none found errors messages = (d', .ok o))
    (hwritable : Report.isWritable found = true) :
    o.output = Terminal.plain (Json.pretty (Report.ofScan found errors)) := by
  rw [report, if_neg (by simp [hwritable])] at h
  cases h
  rfl

lemma report_written {file : String}
    (h : report d .json (some file) found errors messages = (d', .ok o)) (hcode : o.code = 0)
    (hwritable : Report.isWritable found = true) :
    d'.entry? (Route.ofText file.toList) =
      some (.file (Utf8.encode (Json.pretty (Report.ofScan found errors)).toList)) := by
  rw [report, if_neg (by simp [hwritable])] at h
  dsimp only at h
  split at h
  · rename_i hwrite
    cases h
    exact Disk.entry?_write hwrite
  · cases h
    exact absurd hcode (by decide : badUse ≠ 0)

/-- What a successful run printed that was asked for a JSON report. -/
theorem printed_of_run (hrequest : request? words = some (.scan path .json none cache markers))
    (h : run d words = (d', .ok o)) (hcode : o.code = 0) :
    ∃ found errors, Finds d path markers found errors ∧ Report.isWritable found = true ∧
      o.output = Terminal.plain (Json.pretty (Report.ofScan found errors)) := by
  rw [run_eq hrequest] at h
  obtain ⟨found, errors, made, messages, hfinds, hreport⟩ := reported_of_scan h hcode
  have hwritable := isWritable_of_report hreport hcode
  exact ⟨found, errors, hfinds, hwritable, report_printed hreport hwritable⟩

/-- What a successful run left in the file of its JSON report. -/
theorem written_of_run {file : String}
    (hrequest : request? words = some (.scan path .json (some file) cache markers))
    (h : run d words = (d', .ok o)) (hcode : o.code = 0) :
    ∃ found errors, Finds d path markers found errors ∧ Report.isWritable found = true ∧
      d'.entry? (Route.ofText file.toList) =
        some (.file (Utf8.encode (Json.pretty (Report.ofScan found errors)).toList)) := by
  rw [run_eq hrequest] at h
  obtain ⟨found, errors, made, messages, hfinds, hreport⟩ := reported_of_scan h hcode
  have hwritable := isWritable_of_report hreport hcode
  exact ⟨found, errors, hfinds, hwritable, report_written hreport hcode hwritable⟩

/-- The words of a scan of a directory that writes its report. -/
def writing : List String := ["scan", "--path", "p", "--format", "json", "--output", "out.json"]

lemma request?_writing :
    request? writing = some (.scan "p" .json (some "out.json") none []) := by decide +kernel

end ProbeCatalog.Command
