import ProbeCatalog.Proofs.Syntax.Layout

/-!
# Edits of the layout

A source may get blank lines, comments on lines of their own and comments at the ends of complete
logical lines: the values of its tokens stay as they are.
-/
namespace ProbeCatalog.Syntax.Lexer

/-- A line ends between two parts of a text, and no logical line goes on there: the first part can
be read by itself, so it leaves no string and no bracket open and no line to be continued. -/
structure EndsLine (before after : List Char) : Prop where
  lineEnd : after = [] ∨ ∃ rest, after = '\n' :: rest
  complete : (lexLines (before ++ ['\n'])).isSome

/-- A line starts after a part of a text, and no logical line goes on there. -/
inductive StartsLine : List Char → Prop
  | first : StartsLine []
  | next {before : List Char} (complete : (lexLines (before ++ ['\n'])).isSome) :
    StartsLine (before ++ ['\n'])

/-- One edit of the layout of a text whose lines end in line feeds: blanks and a comment at the end
of a line, a line of them before or after others, or such a line after the last one. -/
inductive Edit : List Char → List Char → Prop
  | extend {before after tail : List Char} (hplace : EndsLine before after) (htail : Idle tail) :
    Edit (before ++ after) (before ++ (tail ++ after))
  | insert {before after tail : List Char} (hplace : StartsLine before) (htail : Idle tail) :
    Edit (before ++ after) (before ++ (tail ++ '\n' :: after))
  | append {text tail : List Char} (htail : Idle tail) : Edit text (text ++ '\n' :: tail)

/-! ### Last lines -/

/-- What follows a line end, with the line end that it may lack itself. -/
def ended (cs : List Char) : List Char := if cs.isEmpty then [] else endLastLine cs

lemma endLastLine_append (cs r : List Char) :
    endLastLine (cs ++ '\n' :: r) = cs ++ '\n' :: ended r := by
  cases r with
  | nil => simp [endLastLine, ended]
  | cons c r =>
    simp only [endLastLine, ended, List.getLast?_append_cons, List.getLast?_cons_cons,
      List.isEmpty_cons, Bool.false_eq_true, if_false]
    split <;> simp

lemma mem_endLastLine {c : Char} (hc : c ≠ '\n') {cs : List Char} :
    c ∈ endLastLine cs ↔ c ∈ cs := by
  rw [endLastLine]
  split
  · exact Iff.rfl
  · simp [hc]

lemma endLastLine_idle (cs : List Char) {tail : List Char} (h : Idle tail) (hne : tail ≠ []) :
    endLastLine (cs ++ tail) = cs ++ (tail ++ ['\n']) := by
  rw [endLastLine, List.getLast?_append_of_ne_nil cs hne, if_neg, List.append_assoc]
  intro hlast
  exact (h.clean _ (List.mem_of_getLast? hlast)).1 rfl

/-- A text whose last line has its end. -/
lemma endLastLine_newline (cs : List Char) : endLastLine (cs ++ ['\n']) = cs ++ ['\n'] :=
  endLastLine_append cs []

/-! ### Tokens -/

lemma map_lexLines {cs : List Char} (h : '\x00' ∉ cs) :
    (lexLines cs).map (fun tokens => tokens.map (·.value)) = values .initial cs := by
  rw [lexLines, if_neg (by rwa [List.contains_iff_mem])]
  exact map_lexFrom (need_start [] [] cs).le ⟨1, 0⟩

lemma no_null_of_lexLines {cs : List Char} {tokens : List Lexeme}
    (h : lexLines cs = some tokens) : '\x00' ∉ cs := by
  rw [lexLines] at h
  split at h
  · cases h
  · rwa [List.contains_iff_mem] at *

lemma isSome_values {cs : List Char} (h : (lexLines cs).isSome) :
    (values .initial cs).isSome := by
  obtain ⟨tokens, htokens⟩ := Option.isSome_iff_exists.mp h
  rw [← map_lexLines (no_null_of_lexLines htokens), Option.isSome_map, htokens]
  rfl

/-- A source whose tokens have the values of those of another. -/
lemma lexLines_same {cs cs' : List Char} {tokens : List Lexeme} (hnull : '\x00' ∉ cs')
    (hvalues : values .initial cs' = values .initial cs) (h : lexLines cs = some tokens) :
    ∃ tokens', lexLines cs' = some tokens' ∧ SameTokens tokens tokens' := by
  rw [← map_lexLines hnull, ← map_lexLines (no_null_of_lexLines h), h] at hvalues
  obtain ⟨tokens', htokens', hsame⟩ := Option.map_eq_some_iff.mp hvalues
  exact ⟨tokens', htokens', sameTokens_iff.mpr hsame.symm⟩

/-! ### Seams in a source -/

lemma initial_seam (cs : List Char) : Seam .initial cs := seam .initial cs fun _ => rfl

/-- A line end after the last one gives rise to no token. -/
lemma values_endLastLine {cs : List Char} (h : (values .initial (endLastLine cs)).isSome) :
    values .initial (cs ++ ['\n']) = values .initial (endLastLine cs) := by
  rcases List.eq_nil_or_concat' cs with rfl | ⟨before, c, rfl⟩
  · rfl
  · by_cases hc : c = '\n'
    · subst hc
      rw [endLastLine_newline] at h ⊢
      obtain ⟨ts, blocks, hseam⟩ := initial_seam before h
      rw [List.append_assoc]
      exact (hseam [] ['\n'] idle_nil).trans <|
        (congrArg _ (values_idle_line idle_nil [])).trans (hseam [] [] idle_nil).symm
    · rw [endLastLine, List.getLast?_concat, if_neg fun h => hc (Option.some.inj h)]

section

variable {before after tail text : List Char}

lemma values_ended (blocks : List Margin) (cs : List Char) :
    values ⟨true, blocks, []⟩ (ended cs) = values ⟨true, blocks, []⟩ (endLastLine cs) := by
  cases cs with
  | nil => exact (values_idle_line idle_nil []).symm
  | cons c cs => rfl

lemma values_endLastLine_idle (h : Idle tail) (blocks : List Margin) :
    values ⟨true, blocks, []⟩ (endLastLine tail) = values ⟨true, blocks, []⟩ [] := by
  by_cases hne : tail = []
  · subst hne
    exact values_idle_line idle_nil []
  · have hended : endLastLine tail = tail ++ ['\n'] := endLastLine_idle [] h hne
    rw [hended, values_idle_line h]

lemma values_extend (hplace : EndsLine before after) (htail : Idle tail)
    (h : (values .initial (endLastLine (before ++ after))).isSome) :
    values .initial (endLastLine (before ++ (tail ++ after))) =
      values .initial (endLastLine (before ++ after)) := by
  obtain ⟨ts, blocks, hseam⟩ := initial_seam before (isSome_values hplace.complete)
  rcases hplace.lineEnd with rfl | ⟨r, rfl⟩
  · by_cases hne : tail = []
    · rw [hne, List.nil_append]
    · rw [List.append_nil] at h ⊢
      rw [List.append_nil, endLastLine_idle before htail hne, ← values_endLastLine h]
      exact (hseam tail [] htail).trans (hseam [] [] idle_nil).symm
  · rw [← List.append_assoc, endLastLine_append, endLastLine_append, List.append_assoc]
    exact (hseam tail (ended r) htail).trans (hseam [] (ended r) idle_nil).symm

lemma values_insert (hplace : StartsLine before) (htail : Idle tail) :
    values .initial (endLastLine (before ++ (tail ++ '\n' :: after))) =
      values .initial (endLastLine (before ++ after)) := by
  have hline (blocks : List Margin) : values ⟨true, blocks, []⟩
      (endLastLine (tail ++ '\n' :: after)) = values ⟨true, blocks, []⟩ (ended after) := by
    rw [endLastLine_append, values_idle_line htail]
  cases hplace with
  | first => exact (hline []).trans (values_ended [] after)
  | @next before hcomplete =>
    obtain ⟨ts, blocks, hseam⟩ := initial_seam before (isSome_values hcomplete)
    rw [List.append_assoc, List.append_assoc, List.singleton_append, List.singleton_append,
      endLastLine_append, endLastLine_append]
    refine (hseam [] (ended (tail ++ '\n' :: after)) idle_nil).trans ?_
    rw [values_ended, hline]
    exact (hseam [] (ended after) idle_nil).symm

lemma values_append (htail : Idle tail) (h : (values .initial (endLastLine text)).isSome) :
    values .initial (endLastLine (text ++ '\n' :: tail)) =
      values .initial (endLastLine text) := by
  have hend := values_endLastLine h
  rw [← hend] at h
  obtain ⟨ts, blocks, hseam⟩ := initial_seam text h
  rw [endLastLine_append, ← hend]
  refine (hseam [] (ended tail) idle_nil).trans ?_
  rw [values_ended, values_endLastLine_idle htail]
  exact (hseam [] [] idle_nil).symm

end

/-! ### One edit -/

namespace Edit

variable {text text' : List Char}

lemma values_eq (hedit : Edit text text') (h : (values .initial (endLastLine text)).isSome) :
    values .initial (endLastLine text') = values .initial (endLastLine text) := by
  cases hedit with
  | extend hplace htail => exact values_extend hplace htail h
  | insert hplace htail => exact values_insert hplace htail
  | append htail => exact values_append htail h

lemma no_null (hedit : Edit text text') (h : '\x00' ∉ text) : '\x00' ∉ text' := by
  have hidle {tail : List Char} (htail : Idle tail) : '\x00' ∉ tail :=
    fun hmem => (htail.clean _ hmem).2 rfl
  cases hedit with
  | extend _ htail =>
    simp only [List.mem_append, not_or] at h ⊢
    exact ⟨h.1, hidle htail, h.2⟩
  | insert _ htail =>
    simp only [List.mem_append, List.mem_cons, not_or] at h ⊢
    exact ⟨h.1, hidle htail, by decide, h.2⟩
  | append htail =>
    simp only [List.mem_append, List.mem_cons, not_or]
    exact ⟨h, by decide, hidle htail⟩

/-- An edit of the layout leaves the tokens as they are, save for their places. -/
theorem lexLines_eq {tokens : List Lexeme} (hedit : Edit text text')
    (h : lexLines (endLastLine text) = some tokens) :
    ∃ tokens', lexLines (endLastLine text') = some tokens' ∧ SameTokens tokens tokens' := by
  have hnull : '\x00' ∉ endLastLine text' := by
    rw [mem_endLastLine (by decide)]
    refine hedit.no_null ?_
    rw [← mem_endLastLine (by decide)]
    exact no_null_of_lexLines h
  exact lexLines_same hnull (hedit.values_eq (isSome_values (by rw [h]; rfl))) h

end Edit

end ProbeCatalog.Syntax.Lexer
