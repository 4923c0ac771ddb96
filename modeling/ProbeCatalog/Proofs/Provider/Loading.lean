import ProbeCatalog.Proofs.Json.Limits
import ProbeCatalog.Proofs.Outcome
import ProbeCatalog.Proofs.Text.Utf8
import ProbeCatalog.Provider.Record

/-!
# Faults of stored providers

Octets that store no provider are refused with a fault of their form, whether they are no text, no
JSON or no record. The one fault of another kind comes from a whole number that is too long to be
read, and only from there.
-/
namespace ProbeCatalog.Record

open Json

/-- A fault that is not one of form comes from a long run of digits. -/
lemma hasLongRun_of_decode {octets : List UInt8} (h : decode octets = .error .longNumber) :
    ∃ text, Utf8.decode octets = .ok text ∧ HasLongRun text := by
  rw [decode] at h
  cases htext : Utf8.decode octets with
  | error f =>
    rw [htext] at h
    cases h
  | ok text =>
    rw [htext] at h
    refine ⟨text, rfl, hasLongRun_of_read ?_⟩
    cases hread : Json.read text with
    | error fault =>
      cases fault with
      | malformed problem position =>
        simp only [hread] at h
        cases h
      | longNumber => rfl
    | ok v =>
      simp only [hread] at h
      cases h

lemma decode_overlong {b cs rest : List Char} (hb : Blank b) (h : Overlong cs)
    (hr : EndsNumber rest) :
    decode (Utf8.encode (b ++ (cs ++ rest))) = .error .longNumber := by
  simp only [decode, Utf8.decode_encode, read_overlong hb h hr]

lemma lift_error {α : Type} {x : Except FormatFault α} {fault : LoadFault}
    (h : lift x = .error fault) : ∃ f, fault = .format f := by
  cases x with
  | error f => exact ⟨f, (Except.error.inj h).symm⟩
  | ok a => cases h

/-- What is read after decoding fails with the fault of decoding, or with one of form. -/
lemma fault_cases {α : Type} {octets : List UInt8} {f : Json → Except LoadFault α}
    (hf : ∀ v fault, f v = .error fault → ∃ f, fault = .format f) {fault : LoadFault}
    (h : (decode octets >>= f) = .error fault) :
    (∃ f, fault = .format f) ∨
      fault = .longNumber ∧ ∃ text, Utf8.decode octets = .ok text ∧ HasLongRun text := by
  cases hdecode : decode octets with
  | error fault' =>
    rw [hdecode] at h
    obtain rfl : fault' = fault := Except.error.inj h
    cases fault' with
    | format f => exact Or.inl ⟨f, rfl⟩
    | longNumber => exact Or.inr ⟨rfl, hasLongRun_of_decode hdecode⟩
  | ok v =>
    rw [hdecode] at h
    exact Or.inl (hf v fault h)

/-- Octets that store no provider, or no list of providers, are refused with a fault of their form,
unless they are a text with more digits in a row than a whole number may have. A text that begins
like a value up to such a number is always refused in that other way. -/
theorem load_faults (octets : List UInt8) :
    (∀ fault, (read octets = .error fault ∨ readAll octets = .error fault) →
      (∃ f, fault = .format f) ∨
        fault = .longNumber ∧ ∃ text, Utf8.decode octets = .ok text ∧ HasLongRun text) ∧
    ∀ b cs rest, Blank b → Overlong cs → EndsNumber rest →
      octets = Utf8.encode (b ++ (cs ++ rest)) →
      read octets = .error .longNumber ∧ readAll octets = .error .longNumber := by
  constructor
  · rintro fault (h | h)
    · exact fault_cases (fun v fault => lift_error) h
    · refine fault_cases ?_ h
      intro v fault hfault
      cases v <;> exact lift_error hfault
  · rintro b cs rest hb hcs hr rfl
    rw [read, readAll, decode_overlong hb hcs hr]
    exact ⟨rfl, rfl⟩

theorem load_faults_sample :
    (∃ fault, read [0xFF] = .error fault ∧ ∃ f, fault = .format f) ∧
    ∃ n : Int, n.natAbs = 10 ^ maxDigits ∧
      read (Utf8.encode (toString n).toList) = .error .longNumber ∧
      readAll (Utf8.encode ('[' :: (toString n).toList)) = .error .longNumber := by
  have hdecode : Utf8.decode [0xFF] = .error ⟨0, 0xFF, 1, .start⟩ := by decide
  have hread : read [0xFF] = .error (.format (.notUtf8 ⟨0, 0xFF, 1, .start⟩)) := by
    rw [read, decode, hdecode]
    rfl
  have hsize : ∃ n : Int, n.natAbs = 10 ^ maxDigits := ⟨_, Int.natAbs_natCast _⟩
  obtain ⟨n, hn⟩ := hsize
  have hnumber : Overlong (toString n).toList := .number n (Nat.le_of_eq hn.symm)
  have hitem : Overlong ('[' :: ([] ++ (toString n).toList)) := .array rfl (.here hnumber)
  refine ⟨⟨_, hread, ?_⟩, n, hn, ?_, ?_⟩
  · rcases (load_faults _).1 _ (Or.inl hread) with h | ⟨-, text, htext, -⟩
    · exact h
    · rw [hdecode] at htext
      cases htext
  · exact ((load_faults _).2 [] _ [] rfl hnumber nofun (by simp)).1
  · exact ((load_faults _).2 [] _ [] rfl hitem nofun (by simp)).2

end ProbeCatalog.Record
