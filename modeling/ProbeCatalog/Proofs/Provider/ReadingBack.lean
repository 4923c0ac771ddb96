import ProbeCatalog.Proofs.Provider.Readings

/-!
# Canonical texts as sources

The canonical text of a provider is a source again, but not always one that declares the provider:
names are written in the form that all their spellings share, and that form may be a reserved word.
Whatever is read from it with the same canonical text is the provider itself; and its stored record
is read exactly if the text declares a class of the name of the record.
-/
namespace ProbeCatalog.Provider

variable {source : List Char} {p q : Provider}

lemma exists_parse_of_ofSource {extractor : Extractor} (h : ofSource extractor source = .ok p) :
    ∃ c, Declaration.parse source = .ok c ∧ ofClass extractor c = .ok p := by
  rw [ofSource] at h
  cases hc : Declaration.parse source with
  | error r => rw [hc] at h; cases h
  | ok c =>
    rw [hc] at h
    exact ⟨c, rfl, h⟩

/-- What two sources declare is the same if its canonical text is. -/
lemma same_iff_canonicalText_eq {source' : List Char} (hp : ofSource extract source = .ok p)
    (hq : ofSource extract source' = .ok q) :
    q.same p = true ↔ q.canonicalText = p.canonicalText := by
  refine ⟨fun h => (same_iff.mp h).2.2.1, fun htext => ?_⟩
  obtain ⟨c, hc, hclass⟩ := exists_parse_of_ofSource hp
  obtain ⟨d, hd, hclass'⟩ := exists_parse_of_ofSource hq
  obtain ⟨-, -, hdeclaration, hfits⟩ := ofClass_eq_ok hclass
  obtain ⟨-, -, hdeclaration', hfits'⟩ := ofClass_eq_ok hclass'
  have hsays := classSays_of_ofClass hclass (InSource.of_parse hc).spelled
  have hsays' := classSays_of_ofClass hclass' (InSource.of_parse hd).spelled
  rw [htext] at hsays'
  obtain ⟨hname, hprobes⟩ := hsays'.unique hsays
  refine same_iff.mpr ⟨?_, ?_, htext, hprobes⟩
  · rw [hfits.name, hfits'.name, hdeclaration, hdeclaration', hname]
  · rw [hfits.hash, hfits'.hash, htext]

lemma wellFormed_iff (hp : ofSource extract source = .ok p) : p.WellFormed ↔
    ∃ c, Declaration.parse p.canonicalText.toList = .ok c ∧ Name.ofClass c.value.name = p.name := by
  obtain ⟨c, -, hclass⟩ := exists_parse_of_ofSource hp
  exact and_iff_left (ofClass_eq_ok hclass).2.2.2.hash

/-- What is read from the canonical text of a provider, as a source, is the provider itself if it
has the same canonical text. Its stored record is read as the provider itself or not at all, and it
is read exactly if the text declares a class of its name. -/
theorem reads_back_iff (hp : ofSource extract source = .ok p) :
    (∀ q, ofSource extract p.canonicalText.toList = .ok q →
      (q.same p = true ↔ q.canonicalText = p.canonicalText)) ∧
    ((∃ q, Record.read (Record.serialize p) = .ok q ∧ q.same p = true) ↔
      ∃ c, Declaration.parse p.canonicalText.toList = .ok c ∧
        Name.ofClass c.value.name = p.name) ∧
    (∀ fault, Record.read (Record.serialize p) = .error fault → ∃ f, fault = .format f) := by
  have hscalar : p.IsScalar := by
    obtain ⟨c, -, hclass⟩ := exists_parse_of_ofSource hp
    exact (Extracted.ofClass hclass).isScalar
  have hmalformed (h : ¬ p.WellFormed) :
      ∃ f, Record.read (Record.serialize p) = .error (.format f) := by
    obtain ⟨f, hf⟩ := Record.toProvider_malformed h
    exact ⟨f, by rw [Record.read_serialize hscalar, hf]; rfl⟩
  refine ⟨fun q hq => same_iff_canonicalText_eq hp hq, ?_, fun fault hfault => ?_⟩
  · rw [← wellFormed_iff hp]
    constructor
    · rintro ⟨q, hq, -⟩
      by_contra hnot
      obtain ⟨f, hf⟩ := hmalformed hnot
      rw [hf] at hq
      cases hq
    · exact Record.exists_read_serialize hscalar
  · by_cases hwell : p.WellFormed
    · obtain ⟨q, hq, -⟩ := Record.exists_read_serialize hscalar hwell
      rw [hfault] at hq
      cases hq
    · obtain ⟨f, hf⟩ := hmalformed hwell
      rw [hfault] at hf
      exact ⟨f, Except.error.inj hf⟩

theorem reads_back_iff_alarm : ∃ p, ofSource extract alarmSource.toList = .ok p ∧
    ∃ q, Record.read (Record.serialize p) = .ok q ∧ q.same p = true := by
  have htext : (ofSource extract alarmSource.toList).toOption.map
      (fun p => (p.name, p.canonicalText)) =
        some ("alarm", "class Alarm:\n\n    def ring(by: Optional[str]) -> None:\n        ...") := by
    decide +kernel
  have hname : (Declaration.parse
      "class Alarm:\n\n    def ring(by: Optional[str]) -> None:\n        ...".toList).toOption.map
        (fun c => Name.ofClass c.value.name) = some "alarm" := by decide +kernel
  obtain ⟨p, hp, hpair⟩ := toOption_map_eq_some.mp htext
  obtain ⟨c, hc, hc'⟩ := toOption_map_eq_some.mp hname
  obtain ⟨hpname, hptext⟩ := Prod.mk.inj hpair
  refine ⟨p, hp, (reads_back_iff hp).2.1.mpr ⟨c, ?_, ?_⟩⟩
  · rw [hptext, hc]
  · rw [hc', hpname]

end ProbeCatalog.Provider
