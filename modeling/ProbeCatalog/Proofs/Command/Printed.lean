import ProbeCatalog.Proofs.Cache.Payloads
import ProbeCatalog.Proofs.Command.Scans
import ProbeCatalog.Proofs.Json.Characters
import ProbeCatalog.Proofs.Provider.Origins
import ProbeCatalog.Proofs.Terminal.Printing

/-!
# JSON on a terminal

A report that is printed goes through the printer of a terminal, one that is written to a file does
not. JSON text holds nothing that a terminal mutes or widens, so the two differ in emoji codes only:
the printed report is that of the file with a line feed after it if and only if the report holds no
code of an emoji. The same is true of a provider that is shown from a cache.
-/
namespace ProbeCatalog

open Json

/-! ### Values that are printed -/

namespace Record

lemma exact_ofArgument (a : Argument) : Exact (ofArgument a) := by
  refine .object ?_
  simp only [List.forall_mem_cons]
  exact ⟨.string _, .string _, .string _, .bool _, nofun⟩

lemma exact_ofProbe (p : Probe) : Exact (ofProbe p) := by
  refine .object ?_
  simp only [List.forall_mem_cons]
  exact ⟨.string _, .array (List.forall_mem_map.mpr fun a _ => exact_ofArgument a), nofun⟩

lemma exact_ofProvider (p : Provider) : Exact (ofProvider p) := by
  refine .object ?_
  simp only [List.forall_mem_cons]
  exact ⟨.integer _, .string _, .string _, .string _,
    .array (List.forall_mem_map.mpr fun probe _ => exact_ofProbe probe), nofun⟩

end Record

namespace Report

lemma exact_ofDiscovered (d : Discovered) : Exact (ofDiscovered d) := by
  refine .object ?_
  simp only [List.forall_mem_cons]
  exact ⟨.string _, .integer _, .string _, Record.exact_ofProvider _, nofun⟩

lemma exact_ofError (e : FileError) : Exact (ofError e) := by
  refine .object ?_
  simp only [List.forall_mem_cons]
  exact ⟨.string _, .string _, nofun⟩

lemma exact_ofScan (found : List Discovered) (errors : List FileError) :
    Exact (ofScan found errors) := by
  refine .object ?_
  simp only [List.forall_mem_cons]
  exact ⟨.array (List.forall_mem_map.mpr fun d _ => exact_ofDiscovered d),
    .array (List.forall_mem_map.mpr fun e _ => exact_ofError e), nofun⟩

end Report

/-- A text is printed with its emoji codes replaced and a line feed at its end, and so as it is if
and only if no code names an emoji. -/
structure PrintsAs (text output : String) : Prop where
  eq : output = String.ofList (Emoji.replace text.toList) ++ "\n"
  faithful : output = text ++ "\n" ↔ Emoji.Unnamed text.toList

/-- JSON text holds no controls but line feeds. -/
lemma printsAs_pretty {v : Json} (h : Exact v) :
    PrintsAs (pretty v) (Terminal.plain (pretty v)) := by
  have hsteady : ∀ c ∈ (pretty v).toList, Glyph.IsSteady c := by
    intro c hc
    rcases allWritten_prettyAt h 0 c hc with rfl | hprintable
    · decide
    · exact Glyph.isSteady_of_le hprintable.1
  exact ⟨Terminal.plain_eq hsteady, Terminal.plain_eq_self_iff hsteady⟩

/-! ### Providers that are shown -/

namespace Cache

/-- A record is loaded from a file that is there. -/
lemma entry?_of_load {d : Disk} {r : Route} {key : String} {p : Provider}
    (h : (load d r key).2 = .ok (some p)) : ∃ e, d.entry? r = some e := by
  rw [load] at h
  split at h
  · cases h
  · rename_i made place rows hopen
    rw [openTable] at hopen
    split at hopen
    · cases hopen
    · rename_i place' hspot
      obtain ⟨rows', hrows, heq⟩ := map_eq_ok.mp hopen
      cases hentry : d.root.at? place' with
      | some e => exact ⟨e, Disk.entry?_of_spot? hspot hentry⟩
      | none =>
        -- There are no rows without a file.
        rw [hentry, rowsIn] at hrows
        cases hrows
        cases heq
        cases h

end Cache

namespace Command

variable {d : Disk} {words : List String} {cache name : String} {p : Provider}

lemma run_show (hrequest : request? words = some (.show cache (some name)))
    (hload : (Cache.load d (Route.ofText cache.toList) name).2 = .ok (some p)) :
    ∃ d', run d words =
      (d', .ok ⟨0, Terminal.plain (pretty (Record.ofProvider p)), []⟩) := by
  obtain ⟨e, hentry⟩ := Cache.entry?_of_load hload
  rw [run_eq hrequest]
  simp only [perform, showCache, hentry, showProvider]
  cases hanswer : Cache.load d (Route.ofText cache.toList) name with
  | mk d' answer =>
    rw [hanswer] at hload
    cases hload
    exact ⟨d', rfl⟩

/-- The output of a printed record is read as the record. -/
lemma read_shown (hscalar : p.IsScalar) (hwell : p.WellFormed) :
    ∃ v q, Json.read (pretty (Record.ofProvider p) ++ "\n").toList = .ok v ∧
      Record.toProvider v = .ok q ∧ q.same p = true := by
  obtain ⟨c, hc⟩ := Record.toProvider_wellFormed hwell
  refine ⟨_, _, ?_, hc, by simp [Provider.same]⟩
  rw [String.toList_append]
  exact read_pretty_append (Record.storable_ofProvider hscalar) rfl

/-- Two runs on one project, one that prints its report and one that writes it to a file: what the
first one prints is what stands in the file with its emoji codes replaced and a line feed after it,
and so the two agree if and only if the report holds no code of an emoji. The same is true of a
provider in a cache and what is shown of it, whose hash is then still that of its text. -/
theorem printed_agrees (d : Disk) :
    (∀ (d₁ d₂ : Disk) (words₁ words₂ markers : List String) (path file : String)
        (cache₁ cache₂ : Option String) (o₁ o₂ : Outcome),
      request? words₁ = some (.scan path .json none cache₁ markers) →
      request? words₂ = some (.scan path .json (some file) cache₂ markers) →
      run d words₁ = (d₁, .ok o₁) → o₁.code = 0 → run d words₂ = (d₂, .ok o₂) → o₂.code = 0 →
      ∃ octets text, d₂.entry? (Route.ofText file.toList) = some (.file octets) ∧
        Utf8.decode octets = .ok text.toList ∧ PrintsAs text o₁.output) ∧
    (∀ (words : List String) (cache name : String) (p : Provider),
      request? words = some (.show cache (some name)) →
      (Cache.load d (Route.ofText cache.toList) name).2 = .ok (some p) →
      ∃ d' o, run d words = (d', .ok o) ∧ o.code = 0 ∧
        PrintsAs (pretty (Record.ofProvider p)) o.output ∧
        p.hash = Name.hashOf p.canonicalText ∧
        (p.IsScalar → Emoji.Unnamed (pretty (Record.ofProvider p)).toList →
          ∃ v q, Json.read o.output.toList = .ok v ∧ Record.toProvider v = .ok q ∧
            q.same p = true)) := by
  constructor
  · intro d₁ d₂ words₁ words₂ markers path file cache₁ cache₂ o₁ o₂ hrequest₁ hrequest₂ hrun₁
      hcode₁ hrun₂ hcode₂
    obtain ⟨found, errors, hfinds, -, houtput⟩ := printed_of_run hrequest₁ hrun₁ hcode₁
    obtain ⟨found', errors', hfinds', -, hfile⟩ := written_of_run hrequest₂ hrun₂ hcode₂
    obtain ⟨rfl, rfl⟩ := hfinds.unique hfinds'
    refine ⟨_, _, hfile, Utf8.decode_encode _, ?_⟩
    rw [houtput]
    exact printsAs_pretty (Report.exact_ofScan found errors)
  · intro words cache name p hrequest hload
    obtain ⟨d', hrun⟩ := run_show hrequest hload
    have hprints := printsAs_pretty (Record.exact_ofProvider p)
    have hwell : p.WellFormed := by
      obtain ⟨octets, hread⟩ := Provider.exists_read_of_load hload
      exact Cache.wellFormed_of_read hread
    refine ⟨d', _, hrun, rfl, hprints, hwell.2, fun hscalar hunnamed => ?_⟩
    dsimp only
    rw [hprints.faithful.mpr hunnamed]
    exact read_shown hscalar hwell

section

set_option maxRecDepth 100000

lemma isNamed_zap : Emoji.IsNamed "zap".toList := by
  have hname : lower (Emoji.looked "zap".toList).1 = 'z' :: "ap".toList := by decide +kernel
  have hentry : (Table.words (EmojiTable.namesWith 'z')).any
      (fun entry => (Table.cut '=' entry).head? = some ('z' :: "ap".toList)) = true := by
    -- The text of the table is a literal, which shows its characters when its name is unfolded.
    unfold EmojiTable.namesWith
    rw [Table.words]
    erw [String.toList_ofList]
    decide +kernel
  obtain ⟨entry, hentry, hhead⟩ := List.any_eq_true.mp hentry
  rw [Emoji.IsNamed, hname, Emoji.ofName, Option.isSome_map, List.find?_isSome]
  exact ⟨_, List.mem_map_of_mem hentry, hhead⟩

/-- A file that cannot be parsed, with the code of an emoji in its name. -/
def zapError : FileError := ⟨":zap:.py", "source does not parse"⟩

/-- A directory with this file only. -/
def zapProject : Entry := .directory [(":zap:.py", .file (Utf8.encode "(".toList))]

def zapDisk : Disk := ⟨.directory [("p", zapProject)], []⟩

lemma finds_zap : Finds zapDisk "p" [] [] [zapError] := by
  have hanalysis : (Analysis.analyze (analyzerFor []) (Route.ofText "p".toList)
      zapProject).toOption.map (fun result => (result.1.isEmpty, result.2)) =
        some (true, [zapError]) := by decide +kernel
  obtain ⟨⟨found, errors⟩, hanalyze, heq⟩ := toOption_map_eq_some.mp hanalysis
  simp only [Prod.mk.injEq, List.isEmpty_iff] at heq
  obtain ⟨rfl, rfl⟩ := heq
  exact ⟨zapProject, rfl, hanalyze⟩

/-- The report of this project up to the code. -/
def zapStart : List Char :=
  "\x7b\n  \"errors\": [\n    \x7b\n      \"file_path\": \"".toList

/-- The report behind the code. -/
def zapEnd : List Char :=
  (".py\",\n      \"message\": \"source does not parse\"\n    \x7d\n  ],\n" ++
    "  \"providers\": []\n\x7d").toList

lemma sortFields_pair (a b : Text × String) :
    sortFields [a, b] = if keyLe a.1 b.1 then [a, b] else [b, a] := by
  rw [sortFields]
  simp [List.mergeSort, List.merge]

lemma encloses_zap :
    Emoji.Encloses (pretty (Report.ofScan [] [zapError])).toList "zap".toList := by
  refine ⟨zapStart, zapEnd, ?_, by decide +kernel, by simp [Emoji.IsCode, isBlank]⟩
  simp only [pretty, Report.ofScan, List.map_nil, List.map_cons, Report.ofError, prettyAt,
    prettyFields, prettyItems, sortFields_pair]
  decide +kernel

end

/-- The words of a scan that prints its report. -/
def printing : List String := ["scan", "--path", "p", "--format", "json"]

/-- A cache with the record of a clock. -/
def clockDisk : Disk :=
  ⟨.directory [("cache", .table [⟨"clock", "clock", "", "clock.py", 1,
    Record.serialize (Record.clock (Name.hashOf Record.clockText))⟩])], []⟩

theorem printed_agrees_zap :
    (∃ d₁ d₂ o₁ o₂ octets text, run zapDisk printing = (d₁, .ok o₁) ∧
      run zapDisk writing = (d₂, .ok o₂) ∧
      d₂.entry? (Route.ofText "out.json".toList) = some (.file octets) ∧
      Utf8.decode octets = .ok text.toList ∧ o₁.output ≠ text ++ "\n") ∧
    ∃ d o p, run clockDisk ["show", "--cache", "cache", "--name", "clock"] = (d, .ok o) ∧
      o.code = 0 ∧ PrintsAs (pretty (Record.ofProvider p)) o.output := by
  constructor
  · have hprinted : (run zapDisk printing).2.toOption.map (·.code) = some 0 := by decide +kernel
    have hwritten : (run zapDisk writing).2.toOption.map (·.code) = some 0 := by decide +kernel
    obtain ⟨d₁, o₁, hrun₁, hcode₁⟩ := exists_of_code hprinted
    obtain ⟨d₂, o₂, hrun₂, hcode₂⟩ := exists_of_code hwritten
    obtain ⟨octets, text, hfile, hdecode, hprints⟩ :=
      (printed_agrees zapDisk).1 d₁ d₂ printing writing [] "p" "out.json" none none o₁ o₂
        (by decide +kernel) request?_writing hrun₁ hcode₁ hrun₂ hcode₂
    obtain ⟨found, errors, hfinds, -, hfile'⟩ := written_of_run request?_writing hrun₂ hcode₂
    obtain ⟨rfl, rfl⟩ := hfinds.unique finds_zap
    obtain rfl : octets = _ := by simpa using hfile.symm.trans hfile'
    have htext : text.toList = (pretty (Report.ofScan [] [zapError])).toList := by
      simpa [Utf8.decode_encode] using hdecode.symm
    refine ⟨d₁, d₂, o₁, o₂, _, text, hrun₁, hrun₂, hfile, hdecode, fun heq => ?_⟩
    exact hprints.faithful.mp heq "zap".toList (htext ▸ encloses_zap) isNamed_zap
  · have hholds : Cache.Holds clockDisk (Route.ofText "cache".toList) _ := .table rfl rfl
    obtain ⟨p, hread, -⟩ :=
      Record.exists_read_serialize (Record.isScalar_clock _) (Record.wellFormed_clock rfl)
    have hload := (Cache.load_eq_some hholds "clock" p).mpr ⟨_, rfl, hread⟩
    obtain ⟨d, o, hrun, hcode, hprints, -⟩ := (printed_agrees clockDisk).2
      ["show", "--cache", "cache", "--name", "clock"] "cache" "clock" p (by decide +kernel) hload
    exact ⟨d, o, p, hrun, hcode, hprints⟩

end Command

end ProbeCatalog
