import Propositional.Proofs.Grammar.Rejection
import Propositional.Proofs.Text.Positions
import Propositional.Proofs.Token.Margins

/-! Where the error of a text stands. The position is that of the token or the character that the error names, in the
    text that is parsed. A text that is read loses the white space around it first, and the position does not count
    what stood in front. -/

namespace Propositional
open Text

/-! ### What a fault names -/

/-- The characters that the fault names; at the end of the text there are none. -/
def Fault.chars? : Fault → Option (List Char)
  | .strayCharacter c => some [c]
  | .operandExpected found => found.map (·.spelling.toList)
  | .closeExpected found => found.map (·.spelling.toList)
  | .endExpected found => some found.spelling.toList
  | .nestedTooDeeply => some Token.openParen.spelling.toList

/-- What the fault names stands in the text behind `pre`. -/
def Fault.StandsBehind (pre text : List Char) (fault : Fault) : Prop :=
  match fault.chars? with
  | some chars => ∃ post, text = pre ++ chars ++ post
  | none => text = pre

theorem Fault.StandsBehind.exists_append {pre text : List Char} {fault : Fault} (h : fault.StandsBehind pre text) :
    ∃ post, text = pre ++ post := by
  unfold StandsBehind at h
  split at h
  · obtain ⟨post, rfl⟩ := h
    exact ⟨_, List.append_assoc _ _ _⟩
  · exact ⟨[], by rw [h, List.append_nil]⟩

theorem Fault.StandsBehind.ofLocated_eq {pre text : List Char} {fault : Fault} {offset : Nat}
    (h : fault.StandsBehind pre text) (hoffset : byteLength pre = offset) :
    SyntaxError.ofLocated text ⟨fault, offset⟩ = ⟨fault, .after pre⟩ := by
  obtain ⟨post, rfl⟩ := h.exists_append
  rw [SyntaxError.ofLocated, ← hoffset, ofOffset_byteLength]

namespace Formula.Reading
variable {reading : Reading}

/-- What is rejected is what the fault names. -/
theorem Rejects.chars?_eq {fault : Fault} {k : Option Token} (h : reading.Rejects fault k) :
    fault.chars? = k.map (·.spelling.toList) := by
  cases k with
  | none =>
    have hf : reading.finish = .error fault := h
    obtain ⟨_, _⟩ | ⟨_, _, _ | _⟩ := reading <;> cases hf <;> rfl
  | some token =>
    have hs : reading.step token = .error fault := h
    revert hs
    fun_cases step reading token <;> intro hs <;> cases hs <;> rfl

/-- Tokens that stand elsewhere are read in the same way, and what is wrong with them moves with them. -/
theorem exists_run_shift {n length length' : Nat} {tokens : List (Located Token)} {fault : Located Fault}
    (h : reading.run length tokens = .error fault) :
    ∃ offset, reading.run length' (tokens.map (.shift n)) = .error ⟨fault.value, offset⟩ ∧
      (fault.value.chars? ≠ none → offset = n + fault.offset) := by
  fun_induction run length reading tokens with
  | case1 reading fault' hf =>
    cases h
    refine ⟨length', by rw [List.map_nil, run, hf], fun hchars => ?_⟩
    exact absurd (Rejects.chars?_eq (k := none) hf) hchars
  | case2 reading f hf => cases h
  | case3 reading t ts fault' hs =>
    cases h
    exact ⟨n + t.offset, by simp only [List.map_cons, run, Located.shift, hs], fun _ => rfl⟩
  | case4 reading t ts next hs ih =>
    obtain ⟨offset, hrun, hoffset⟩ := ih h
    exact ⟨offset, by simp only [List.map_cons, run, Located.shift, hs, hrun], hoffset⟩

end Formula.Reading

namespace Statement
open Formula

theorem exists_standsBehind_of_fault {text : List Char} {fault : Located Fault}
    (h : (tokenize text >>= ofTokens (byteLength text)) = .error fault) :
    ∃ pre, fault.value.StandsBehind pre text ∧ byteLength pre = fault.offset := by
  cases ht : tokenize text with
  | error fault' =>
    rw [ht] at h
    cases h
    obtain ⟨c, hc, pre, post, htext, hoffset⟩ := stands_of_tokenize_error ht
    refine ⟨pre, ?_, hoffset⟩
    rw [hc]
    exact ⟨post, htext⟩
  | ok tokens =>
    rw [ht] at h
    obtain ⟨done, l, after, last, hts, -, hl, hoffset⟩ := Reading.exists_rejects_of_run h
    have hls : lexemes text = .ok (closed (byteLength text) tokens) := lexemes_eq_ok_iff.mpr ⟨tokens, ht, rfl⟩
    obtain ⟨pre, hpre, hlength⟩ := exists_standsBehind hls (hts ▸ List.mem_append_right _ List.mem_cons_self)
    refine ⟨pre, ?_, hlength.trans hoffset.symm⟩
    rw [Fault.StandsBehind, hl.chars?_eq]
    cases hk : l.value with
    | none =>
      rw [hk] at hpre
      exact hpre
    | some token =>
      rw [hk] at hpre
      exact hpre

theorem exists_fault_surrounded {s front back : List Char} {fault : Located Fault}
    (hfront : ∀ c ∈ front, isBlank c = true) (hback : ∀ c ∈ back, isBlank c = true)
    (h : (tokenize s >>= ofTokens (byteLength s)) = .error fault) :
    ∃ offset,
      (tokenize (front ++ s ++ back) >>= ofTokens (byteLength (front ++ s ++ back))) = .error ⟨fault.value, offset⟩ ∧
        (fault.value.chars? ≠ none → offset = byteLength front + fault.offset) := by
  rw [tokenize_surrounded hfront hback]
  cases ht : tokenize s with
  | error fault' =>
    rw [ht] at h
    cases h
    exact ⟨_, rfl, fun _ => rfl⟩
  | ok tokens =>
    rw [ht] at h
    exact Reading.exists_run_shift h

/-! ### Texts that are read -/

theorem read_toUTF8 (text : String) :
    read text.toUTF8 = (parse (String.ofList (trim text.toList))).mapError .syntactic := by
  have hdecode : String.fromUTF8? text.toUTF8 = some text := by
    simp only [String.fromUTF8?, String.toUTF8_eq_toByteArray, dif_pos text.isValidUTF8]
    rfl
  rw [read, hdecode]

theorem exists_trim (s : List Char) :
    ∃ back, (∀ c ∈ back, isBlank c = true) ∧ s = s.takeWhile isBlank ++ trim s ++ back := by
  obtain ⟨back, hback, hs⟩ := exists_trimEnd_append (s.dropWhile isBlank)
  refine ⟨back, hback, ?_⟩
  rw [List.append_assoc, trim, ← hs, List.takeWhile_append_dropWhile]

/-- The error of a text that is read names a character or a token of the text, the same as if the text were parsed; but
    the position leaves out the white space in front of the text. -/
theorem position_of_read {text : String} {e : SyntaxError} {chars : List Char}
    (h : read text.toUTF8 = .error (.syntactic e)) (hchars : e.fault.chars? = some chars) :
    ∃ pre post,
      text.toList = text.toList.takeWhile isBlank ++ pre ++ chars ++ post ∧
        parse text = .error ⟨e.fault, .after (text.toList.takeWhile isBlank ++ pre)⟩ ∧
        e.position = .after pre ∧
        (e.position = .after (text.toList.takeWhile isBlank ++ pre) ↔
          '\n' ∉ text.toList.takeWhile isBlank ∧ (text.toList.takeWhile isBlank = [] ∨ '\n' ∈ pre)) := by
  obtain ⟨back, hback, htext⟩ := exists_trim text.toList
  have hfront : ∀ c ∈ text.toList.takeWhile isBlank, isBlank c = true :=
    fun c hc => List.all_eq_true.mp List.all_takeWhile c hc
  rw [read_toUTF8] at h
  cases hparse : parse (String.ofList (trim text.toList)) with
  | ok s =>
    rw [hparse] at h
    cases h
  | error e' =>
    rw [hparse] at h
    cases h
    obtain ⟨fault, hfault, rfl⟩ := parse_eq_error_iff.mp hparse
    rw [String.toList_ofList] at hfault
    obtain ⟨pre, hpre, hoffset⟩ := exists_standsBehind_of_fault hfault
    have hposition : (SyntaxError.ofLocated (trim text.toList) fault).position = .after pre := by
      rw [hpre.ofLocated_eq hoffset]
    obtain ⟨post, htrim⟩ : ∃ post, trim text.toList = pre ++ chars ++ post := by
      rw [Fault.StandsBehind, show fault.value.chars? = some chars from hchars] at hpre
      exact hpre
    have hwhole : text.toList = text.toList.takeWhile isBlank ++ pre ++ chars ++ (post ++ back) := by
      nth_rewrite 1 [htext]
      rw [htrim]
      simp only [List.append_assoc]
    have hstands : fault.value.StandsBehind (text.toList.takeWhile isBlank ++ pre) text.toList := by
      rw [Fault.StandsBehind, show fault.value.chars? = some chars from hchars]
      exact ⟨_, hwhole⟩
    obtain ⟨offset, hsurrounded, hmoved⟩ := exists_fault_surrounded hfront hback hfault
    rw [← htext] at hsurrounded
    have hlength : byteLength (text.toList.takeWhile isBlank ++ pre) = offset := by
      rw [byteLength_append, hoffset, hmoved (by rw [show fault.value.chars? = some chars from hchars]; exact nofun)]
    refine ⟨pre, post ++ back, hwhole, ?_, ?_, ?_⟩
    · exact parse_eq_error_iff.mpr ⟨⟨fault.value, offset⟩, hsurrounded, (hstands.ofLocated_eq hlength).symm⟩
    · rw [String.toList_ofList]
      exact hposition
    · rw [String.toList_ofList, hposition]
      exact eq_comm.trans Position.after_append_eq_iff

/-- The text begins with two line breaks that the position does not count: the parenthesis stands in the third line. -/
theorem position_of_read_closeParen :
    read "\n\n  )".toUTF8 = .error (.syntactic ⟨.operandExpected (some .closeParen), ⟨1, 1⟩⟩) ∧
      (Fault.operandExpected (some .closeParen)).chars? = some [')'] ∧
      ∃ pre post,
        "\n\n  )".toList = "\n\n  )".toList.takeWhile isBlank ++ pre ++ [')'] ++ post ∧
          parse "\n\n  )" =
            .error ⟨.operandExpected (some .closeParen), .after ("\n\n  )".toList.takeWhile isBlank ++ pre)⟩ ∧
          (⟨1, 1⟩ : Position) = .after pre ∧
          ((⟨1, 1⟩ : Position) = .after ("\n\n  )".toList.takeWhile isBlank ++ pre) ↔
            '\n' ∉ "\n\n  )".toList.takeWhile isBlank ∧
              ("\n\n  )".toList.takeWhile isBlank = [] ∨ '\n' ∈ pre)) := by
  have h : read "\n\n  )".toUTF8 = .error (.syntactic ⟨.operandExpected (some .closeParen), ⟨1, 1⟩⟩) := by
    decide +kernel
  exact ⟨h, rfl, position_of_read h rfl⟩

/-- The position of an error can be one at which the text has something else than what the error names. -/
theorem not_forall_position_of_read :
    ¬∀ (text : String) (e : SyntaxError) (chars : List Char),
      read text.toUTF8 = .error (.syntactic e) → e.fault.chars? = some chars →
        ∃ pre post, text.toList = pre ++ chars ++ post ∧ e.position = .after pre := by
  intro h
  obtain ⟨pre, post, htext, hposition⟩ :=
    h "\n\n  )" ⟨.operandExpected (some .closeParen), ⟨1, 1⟩⟩ [')'] (by decide +kernel) rfl
  rw [show "\n\n  )".toList = ['\n', '\n', ' ', ' ', ')'] by decide] at htext
  cases pre with
  | nil => cases htext
  | cons c pre =>
    -- The first character is a line break, so no other place is in the first line.
    obtain rfl : '\n' = c := (List.cons.inj htext).1
    have hline : 1 = List.count '\n' ('\n' :: pre) + 1 := congrArg Position.line hposition
    simp at hline

end Statement
end Propositional
