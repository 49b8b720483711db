import Propositional.Proofs.Statement.Places

/-! The position of an error and the offset at which it was found. The text can be cut at the offset, where what the
    error names stands or the text ends, and a walk to the position ends there. -/

namespace Propositional
open Text

namespace Statement

/-- The text is rejected with the fault, at its byte offset. -/
def Rejected (source : String) (fault : Located Fault) : Prop :=
  (tokenize source.toList >>= Formula.ofTokens (byteLength source.toList)) = .error fault

section
variable {source : String} {fault : Located Fault}

/-- A text that has no lexemes is rejected for the same reason. -/
theorem rejected_of_lexemes (h : lexemes source.toList = .error fault) : Rejected source fault := by
  rw [Rejected, lexemes_eq_error_iff.mp h]
  rfl

theorem Rejected.isValid_offset (h : Rejected source fault) : (⟨fault.offset⟩ : String.Pos.Raw).IsValid source := by
  obtain ⟨pre, hpre, hoffset⟩ := exists_standsBehind_of_fault h
  obtain ⟨post, htext⟩ := hpre.exists_append
  exact hoffset ▸ isValid_byteLength htext

theorem Rejected.offset?_eq_some_iff (h : Rejected source fault) {p : Position} :
    p.offset? source.toList = some fault.offset ↔ p = (SyntaxError.ofLocated source.toList fault).position := by
  obtain ⟨pre, hpre, hoffset⟩ := exists_standsBehind_of_fault h
  obtain ⟨post, htext⟩ := hpre.exists_append
  rw [hpre.ofLocated_eq hoffset, ← hoffset, htext]
  exact Position.offset?_eq_some_byteLength_iff

end

/-- The error of a text is that of a fault at an offset where the text can be cut. Behind the offset stands what the
    fault names, or nothing at the end of the text, and the position of the error is the one from which a walk ends
    there. A text without lexemes has this error already from its tokens. -/
theorem exists_rejected_of_parse (source : String) :
    (∀ e, parse source = .error e →
      ∃ fault, Rejected source fault ∧ e = .ofLocated source.toList fault ∧
        (⟨fault.offset⟩ : String.Pos.Raw).IsValid source ∧
        (∃ pre, fault.value.StandsBehind pre source.toList ∧ byteLength pre = fault.offset) ∧
        ∀ p : Position, p.offset? source.toList = some fault.offset ↔ p = e.position) ∧
      ∀ fault, lexemes source.toList = .error fault →
        Rejected source fault ∧ parse source = .error (.ofLocated source.toList fault) := by
  refine ⟨fun e h => ?_, fun fault h => ?_⟩
  · obtain ⟨fault, hfault, rfl⟩ := parse_eq_error_iff.mp h
    have hrejected : Rejected source fault := hfault
    exact ⟨fault, hrejected, rfl, hrejected.isValid_offset, exists_standsBehind_of_fault hfault,
      fun p => hrejected.offset?_eq_some_iff⟩
  · have hrejected := rejected_of_lexemes h
    exact ⟨hrejected, parse_eq_error_iff.mpr ⟨fault, hrejected, rfl⟩⟩

/-- The letter in front of the line break takes two bytes, the other one three. -/
theorem exists_rejected_of_parse_wide :
    parse "é\n&& 真 ?" = .error ⟨.strayCharacter '?', ⟨2, 6⟩⟩ ∧
      Position.offset? "é\n&& 真 ?".toList ⟨2, 6⟩ = some 10 ∧
      Rejected "é\n&& 真 ?" ⟨.strayCharacter '?', 10⟩ ∧
      (∃ fault, Rejected "é\n&& 真 ?" fault ∧
        ⟨.strayCharacter '?', ⟨2, 6⟩⟩ = SyntaxError.ofLocated "é\n&& 真 ?".toList fault ∧
        (⟨fault.offset⟩ : String.Pos.Raw).IsValid "é\n&& 真 ?" ∧
        (∃ pre, fault.value.StandsBehind pre "é\n&& 真 ?".toList ∧ byteLength pre = fault.offset) ∧
        ∀ p : Position, p.offset? "é\n&& 真 ?".toList = some fault.offset ↔ p = ⟨2, 6⟩) := by
  obtain ⟨hparse, hlexemes⟩ := exists_rejected_of_parse "é\n&& 真 ?"
  have herror : parse "é\n&& 真 ?" = .error ⟨.strayCharacter '?', ⟨2, 6⟩⟩ := by decide +kernel
  have hoffset : Position.offset? "é\n&& 真 ?".toList ⟨2, 6⟩ = some 10 := by decide +kernel
  have hrejected := (hlexemes ⟨.strayCharacter '?', 10⟩ (by decide +kernel)).1
  exact ⟨herror, hoffset, hrejected, hparse _ herror⟩

end Statement
end Propositional
