import Propositional.Proofs.Names
import Propositional.Proofs.Statement.Places
import Propositional.Table

/-! Reading a text and parsing it as it stands. The white space around a text moves its tokens but gives no other ones,
    so the formula is the same, and so is what is wrong where there is none. The names found in both texts are the
    formula's, and the tables differ in the text they show alone. -/

namespace Propositional
open Text

namespace Statement
open Formula
variable {s : List Char} {front back : List Char}

/-- White space around a text changes nothing but the text in its statement. -/
theorem parse_surrounded {st : Statement} (hfront : ∀ c ∈ front, isBlank c = true)
    (hback : ∀ c ∈ back, isBlank c = true) (h : parse (String.ofList s) = .ok st) :
    parse (String.ofList (front ++ s ++ back)) = .ok { st with source := String.ofList (front ++ s ++ back) } := by
  obtain ⟨⟨tokens, ht, hd⟩, -, hvars⟩ := parse_eq_ok_iff.mp h
  rw [String.toList_ofList] at ht
  refine parse_eq_ok_iff.mpr ⟨⟨tokens.map (.shift (byteLength front)), ?_, ?_⟩, rfl, hvars⟩
  · rw [String.toList_ofList, tokenize_surrounded hfront hback, ht]
    rfl
  · rwa [List.map_map]

theorem exists_parse_error_surrounded {e : SyntaxError} (hfront : ∀ c ∈ front, isBlank c = true)
    (hback : ∀ c ∈ back, isBlank c = true) (h : parse (String.ofList s) = .error e) :
    ∃ position, parse (String.ofList (front ++ s ++ back)) = .error ⟨e.fault, position⟩ := by
  obtain ⟨fault, hfault, rfl⟩ := parse_eq_error_iff.mp h
  rw [String.toList_ofList] at hfault
  obtain ⟨offset, hsurrounded, -⟩ := exists_fault_surrounded hfront hback hfault
  exact ⟨_, parse_eq_error_iff.mpr ⟨⟨fault.value, offset⟩, by rwa [String.toList_ofList], rfl⟩⟩

end Statement

/-- Statements with one formula whose texts have the same names have the same table, but for the text it shows. -/
theorem Table.ofStatement_congr {s s' : Statement} (hformula : s.formula = s'.formula)
    (hnames : namesIn s.source.toList = namesIn s'.source.toList) (options : Options) :
    ofStatement s options = (ofStatement s' options).map fun table => { table with expression := s.source } := by
  rw [ofStatement, ofStatement, hformula, hnames]
  dsimp only
  split
  · rfl
  · cases rowsOf options.parallel (namesIn s'.source.toList) s'.formula <;> rfl

namespace Statement

/-- A text that is read gives the formula and the variables that it gives as it stands, the source without the white
    space around it, and the same table but for the source; or it is at fault in the same way. -/
theorem read_agrees_parse (text : String) :
    (∃ s s' : Statement, read text.toUTF8 = .ok s ∧ parse text = .ok s' ∧ s.formula = s'.formula ∧ s.vars = s'.vars ∧
        s.source = String.ofList (trim text.toList) ∧ s'.source = text ∧
        ∀ options, Table.ofStatement s options =
          (Table.ofStatement s' options).map fun table => { table with expression := s.source }) ∨
      ∃ e e' : SyntaxError, read text.toUTF8 = .error (.syntactic e) ∧ parse text = .error e' ∧
        e.fault = e'.fault := by
  obtain ⟨back, hback, htext⟩ := exists_trim text.toList
  have hfront : ∀ c ∈ text.toList.takeWhile isBlank, isBlank c = true :=
    fun c hc => List.all_eq_true.mp List.all_takeWhile c hc
  have hwhole : String.ofList (text.toList.takeWhile isBlank ++ trim text.toList ++ back) = text := by
    rw [← htext, String.ofList_toList]
  rw [read_toUTF8]
  cases hparse : parse (String.ofList (trim text.toList)) with
  | ok s =>
    left
    have hparse' := parse_surrounded hfront hback hparse
    rw [hwhole] at hparse'
    have hsource : s.source = String.ofList (trim text.toList) := (parse_eq_ok_iff.mp hparse).2.1
    have hnames : namesIn s.source.toList = namesIn text.toList := by
      rw [hsource, namesIn_source hparse, namesIn_source hparse']
    have htable := @Table.ofStatement_congr s { s with source := text } rfl hnames
    exact ⟨s, _, rfl, hparse', rfl, rfl, hsource, rfl, htable⟩
  | error e =>
    right
    obtain ⟨position, hparse'⟩ := exists_parse_error_surrounded hfront hback hparse
    rw [hwhole] at hparse'
    exact ⟨e, _, rfl, hparse', rfl⟩

end Statement
end Propositional
