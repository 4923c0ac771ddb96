import Mathlib.Logic.Relation
import ProbeCatalog.Proofs.Provider.Alike
import ProbeCatalog.Proofs.Provider.Fields
import ProbeCatalog.Proofs.Syntax.Alike.Statements
import ProbeCatalog.Proofs.Syntax.Edits

/-!
# Providers of reformatted sources

A provider comes from the tokens of its source, so blank lines and comments outside logical lines
have no part in it.
-/
namespace ProbeCatalog

open Syntax

/-- One edit of the layout of a source, whose line ends may be of any kind. -/
def Reformats (source source' : List Char) : Prop :=
  Lexer.Edit (unifyLineEnds source) (unifyLineEnds source')

section

variable {source source' : List Char}

namespace Reformats

lemma parseModule_like (h : Reformats source source') {block : Block}
    (hblock : parseModule source = some block) :
    ∃ block', parseModule source' = some block' ∧ BlocksLike block block' := by
  have hlexed := hblock
  rw [parseModule] at hlexed
  obtain ⟨tokens, htokens, -⟩ := Option.bind_eq_some_iff.mp hlexed
  obtain ⟨tokens', htokens', hsame⟩ := h.lexLines_eq htokens
  exact Syntax.parseModule_like htokens htokens' hsame hblock

lemma parse_like (h : Reformats source source') {c : Located ClassDecl}
    (hc : Declaration.parse source = .ok c) : ∃ c', Declaration.parse source' = .ok c' ∧
      Located.Like (ClassOf.Like Stmt.Like) c c' := by
  obtain ⟨block', hblock', hlike⟩ := h.parseModule_like (Record.parse_eq_ok.mp hc)
  cases hlike with
  | cons hs hmore =>
    cases hmore
    cases hs with
    | @intro _ pos' _ s' hs =>
      cases hs with
      | @classDef _ c' hclass => exact ⟨⟨pos', c'⟩, Record.parse_eq_ok.mpr hblock', .intro hclass⟩
      | other hother _ => cases hother

end Reformats

namespace Provider

lemma ofSource_reformat {p : Provider} (h : Reformats source source')
    (hp : ofSource extract source = .ok p) :
    ∃ p', ofSource extract source' = .ok p' ∧ p'.name = p.name ∧ p'.hash = p.hash ∧
      p'.canonicalText = p.canonicalText ∧ p'.probes = p.probes := by
  cases hc : Declaration.parse source with
  | error r =>
    rw [ofSource, hc] at hp
    cases hp
  | ok c =>
    rw [ofSource, hc] at hp
    obtain ⟨c', hc', hlike⟩ := h.parse_like hc
    rw [ofSource, hc']
    exact ofClass_like hlike hp

/-- A source that declares a provider still does after any edits of its layout, and the provider has
the same name, hash, canonical text and probes. -/
theorem ofSource_reformats {p : Provider} (hp : ofSource extract source = .ok p)
    (h : Relation.ReflTransGen Reformats source source') :
    ∃ p', ofSource extract source' = .ok p' ∧ p'.name = p.name ∧ p'.hash = p.hash ∧
      p'.canonicalText = p.canonicalText ∧ p'.probes = p.probes := by
  induction h with
  | refl => exact ⟨p, hp, rfl, rfl, rfl, rfl⟩
  | tail _ hedit ih =>
    obtain ⟨q, hq, hname, hhash, htext, hprobes⟩ := ih
    obtain ⟨p', hp', hname', hhash', htext', hprobes'⟩ := ofSource_reformat hedit hq
    exact ⟨p', hp', hname'.trans hname, hhash'.trans hhash, htext'.trans htext,
      hprobes'.trans hprobes⟩

end Provider

end

/-- The class with a comment after its head. -/
def notedAlarmSource : String :=
  "class Alarm:\t# rings\n  def ring(by: Optional[str]) -> None: ..."

/-- The same with a comment that looks like the start of a string, on a line of its own, and with a
line end of another kind. -/
def quotedAlarmSource : String :=
  "class Alarm:\t# rings\r\n      # '''\n  def ring(by: Optional[str]) -> None: ..."

/-- The same with blanks on a last line that has no end. -/
def wideAlarmSource : String := quotedAlarmSource ++ "\n   "

lemma Reformats.of_edit {source source' text text' : List Char} (h : Lexer.Edit text text')
    (hs : unifyLineEnds source = text) (hs' : unifyLineEnds source' = text') :
    Reformats source source' := by
  rwa [Reformats, hs, hs']

open Lexer in
lemma reformats_alarm :
    Relation.ReflTransGen Reformats alarmSource.toList wideAlarmSource.toList := by
  have hnoted : Reformats alarmSource.toList notedAlarmSource.toList :=
    .of_edit (@Edit.extend "class Alarm:".toList
      ('\n' :: "  def ring(by: Optional[str]) -> None: ...".toList)
      ("\t".toList ++ '#' :: " rings".toList)
      ⟨.inr ⟨_, rfl⟩, by decide +kernel⟩ (.of_all (by decide) (by decide)))
      (by decide +kernel) (by decide +kernel)
  have hquoted : Reformats notedAlarmSource.toList quotedAlarmSource.toList :=
    .of_edit (@Edit.insert ("class Alarm:\t# rings".toList ++ ['\n'])
      "  def ring(by: Optional[str]) -> None: ...".toList
      ("      ".toList ++ '#' :: " '''".toList)
      (.next (by decide +kernel)) (.of_all (by decide) (by decide)))
      (by decide +kernel) (by decide +kernel)
  have hwide : Reformats quotedAlarmSource.toList wideAlarmSource.toList :=
    .of_edit (@Edit.append _ "   ".toList (.blanks (List.all_eq_true.mp (by decide)))) rfl
      (by decide +kernel)
  exact .tail (.tail (.single hnoted) hquoted) hwide

theorem Provider.ofSource_reformats_alarm :
    ∃ p p', ofSource extract alarmSource.toList = .ok p ∧
      ofSource extract wideAlarmSource.toList = .ok p' ∧ p'.name = p.name ∧ p'.hash = p.hash ∧
      p'.canonicalText = p.canonicalText ∧ p'.probes = p.probes := by
  obtain ⟨p, hp, -⟩ := exists_alarm
  obtain ⟨p', hp', hsame⟩ := ofSource_reformats hp reformats_alarm
  exact ⟨p, p', hp, hp', hsame⟩

end ProbeCatalog
