import ProbeCatalog.Proofs.Terminal.Codes
import ProbeCatalog.Terminal.Plain

/-!
# Plain printing of steady text

A text without tabs and without controls that are muted is printed with a line feed at its end and
its emoji codes replaced, and is not changed otherwise: the lines that it is cut into are put
together again by the line feeds between them.
-/
namespace ProbeCatalog

namespace Glyph

/-- A character that is neither muted nor a tab. -/
def IsSteady (c : Char) : Prop := isMuted c = false ∧ c ≠ '\t'

instance (c : Char) : Decidable (IsSteady c) := inferInstanceAs (Decidable (_ ∧ _))

lemma isSteady_of_le {c : Char} (h : 32 ≤ c.toNat) : IsSteady c := by
  refine ⟨?_, ?_⟩
  · simp only [isMuted, List.contains_eq_mem, List.mem_cons, List.not_mem_nil, or_false,
      decide_eq_false_iff_not]
    omega
  · rintro rfl
    exact absurd h (by decide)

/-- The characters of glyphs. -/
def chars (gs : List Glyph) : List Char := gs.map (·.char)

lemma expandTabs_eq_self {gs : List Glyph} (h : ∀ g ∈ gs, g.char ≠ '\t') (taken : Nat) :
    expandTabs taken gs = gs := by
  induction gs generalizing taken with
  | nil => rfl
  | cons g gs ih =>
    obtain ⟨hg, hgs⟩ := List.forall_mem_cons.mp h
    rw [expandTabs, if_neg hg, ih hgs]

lemma lines_ne_nil (gs : List Glyph) : lines gs ≠ [] := by
  fun_cases lines gs <;> simp [*]

lemma mem_of_mem_lines {gs line : List Glyph} {g : Glyph} (hline : line ∈ lines gs)
    (hg : g ∈ line) : g ∈ gs := by
  induction gs generalizing line with
  | nil =>
    rw [lines, List.mem_singleton] at hline
    exact hline ▸ hg
  | cons first gs ih =>
    rw [lines] at hline
    split at hline
    · rcases List.mem_cons.mp hline with rfl | hline
      · cases hg
      · exact List.mem_cons_of_mem _ (ih hline hg)
    · split at hline
      · rename_i hnil
        exact absurd hnil (lines_ne_nil gs)
      · rename_i line' rest hlines
        rcases List.mem_cons.mp hline with rfl | hline
        · rcases List.mem_cons.mp hg with rfl | hg
          · exact List.mem_cons_self
          · exact List.mem_cons_of_mem _ (ih (by simp [hlines]) hg)
        · exact List.mem_cons_of_mem _ (ih (by simp [hlines, hline]) hg)

/-- Lines with line feeds between them are the text that was cut. -/
lemma intercalate_lines (gs : List Glyph) :
    ['\n'].intercalate ((lines gs).map chars) = chars gs := by
  induction gs with
  | nil => rfl
  | cons g gs ih =>
    obtain ⟨line, rest, hlines⟩ := List.exists_cons_of_ne_nil (lines_ne_nil gs)
    rw [hlines, List.map_cons] at ih
    rw [lines, hlines, chars, List.map_cons, ← chars, ← ih]
    split
    · rename_i hg
      simp only [List.map_cons, List.intercalate_cons_cons, chars, List.map_nil, List.nil_append,
        hg, List.singleton_append]
    · cases rest with
      | nil => simp [chars]
      | cons next rest => simp [List.intercalate_cons_cons, chars]

/-- Characters other than tabs are written as they are. -/
lemma write_lines {cs : List Char} (h : ∀ c ∈ cs, c ≠ '\t') :
    "\n".intercalate ((lines (cs.map plain)).map fun line =>
      String.ofList ((expandTabs 0 line).map (·.char))) = String.ofList cs := by
  have hkept : ∀ line ∈ lines (cs.map plain), expandTabs 0 line = line := by
    refine fun line hline => expandTabs_eq_self (fun g hg => ?_) 0
    obtain ⟨c, hc, rfl⟩ := List.mem_map.mp (mem_of_mem_lines hline hg)
    exact h c hc
  rw [List.map_congr_left fun line hline => by rw [hkept line hline]]
  refine String.ext ?_
  rw [String.toList_intercalate, List.map_map]
  calc ['\n'].intercalate ((lines (cs.map plain)).map (String.toList ∘ fun line =>
        String.ofList (line.map (·.char))))
      = ['\n'].intercalate ((lines (cs.map plain)).map chars) := by
        simp only [Function.comp_def, String.toList_ofList]
        rfl
    _ = chars (cs.map plain) := intercalate_lines _
    _ = cs := by simp [chars, Function.comp_def, plain]
    _ = (String.ofList cs).toList := String.toList_ofList.symm

end Glyph

namespace Terminal

/-- Printing text of steady characters replaces its emoji codes and ends the last line. -/
theorem plain_eq {text : String} (h : ∀ c ∈ text.toList, Glyph.IsSteady c) :
    plain text = String.ofList (Emoji.replace text.toList) ++ "\n" := by
  have hsteady : ∀ c ∈ Emoji.replace text.toList, Glyph.IsSteady c := by
    refine Emoji.forall_mem_replace (fun c hc => Glyph.isSteady_of_le ?_) h
    rw [Emoji.isShown, Bool.and_eq_true, decide_eq_true_eq] at hc
    omega
  have hshown : (Emoji.replace text.toList).filter (!Glyph.isMuted ·) =
      Emoji.replace text.toList :=
    List.filter_eq_self.mpr fun c hc => by simp [(hsteady c hc).1]
  rw [plain, hshown, Glyph.write_lines fun c hc => (hsteady c hc).2]

/-- Printing leaves text of steady characters as it is if and only if none of its codes names an
emoji. -/
theorem plain_eq_self_iff {text : String} (h : ∀ c ∈ text.toList, Glyph.IsSteady c) :
    plain text = text ++ "\n" ↔ Emoji.Unnamed text.toList := by
  rw [plain_eq h, ← Emoji.replace_eq_self_iff, ← String.toList_inj]
  simp

end Terminal

end ProbeCatalog
