import Mathlib.Data.List.TakeWhile
import Propositional.Proofs.Text.Separated
import Propositional.Text.Position

/-! Positions and offsets of a text. The position behind a text counts the lines of the text and the characters in the
    last one. So it says how to walk to the place again, from line to line and on in the last one, and the walk ends
    at the byte offset of the place. -/

namespace Propositional.Text

/-! ### Bytes -/

theorem utf8ByteSize_ofList (s : List Char) : (String.ofList s).utf8ByteSize = byteLength s := by
  induction s with
  | nil => rfl
  | cons c s ih => rw [String.ofList_cons, String.utf8ByteSize_append, String.utf8ByteSize_singleton, ih, byteLength_cons]

/-- Between two characters a text can be cut. -/
theorem isValid_byteLength {text : String} {pre post : List Char} (h : text.toList = pre ++ post) :
    (⟨byteLength pre⟩ : String.Pos.Raw).IsValid text := by
  refine String.Pos.Raw.isValid_iff_exists_append.mpr ⟨String.ofList pre, String.ofList post, ?_, ?_⟩
  · rw [← String.ofList_append, ← h, String.ofList_toList]
  · rw [String.rawEndPos, utf8ByteSize_ofList]

theorem eq_of_byteLength_eq {pre pre' post post' : List Char} (h : pre ++ post = pre' ++ post')
    (hlength : byteLength pre = byteLength pre') : pre = pre' := by
  rw [← before_byteLength pre post, h, hlength, before_byteLength]

namespace Position

/-! ### Text in front -/

theorem column_after_of_notMem {s : List Char} (h : '\n' ∉ s) : (Position.after s).column = s.length + 1 := by
  have hall : s.reverse.takeWhile (· ≠ '\n') = s.reverse := by
    rw [List.takeWhile_eq_self_iff]
    intro c hc
    have hne : c ≠ '\n' := fun heq => h (heq ▸ List.mem_reverse.mp hc)
    simpa using hne
  rw [Position.after, hall, List.length_reverse]

theorem column_after_append {front pre : List Char} (h : '\n' ∈ pre) :
    (Position.after (front ++ pre)).column = (Position.after pre).column := by
  have hstop : (pre.reverse.takeWhile (· ≠ '\n')).length ≠ pre.reverse.length := by
    intro hlength
    have hall := List.takeWhile_eq_self_iff.mp ((List.takeWhile_prefix _).eq_of_length hlength)
    have hne := hall '\n' (List.mem_reverse.mpr h)
    simp at hne
  rw [Position.after, Position.after, List.reverse_append, List.takeWhile_append, if_neg hstop]

/-- Text in front leaves a position as it is only if it has no line break, and is empty or in a line before. -/
theorem after_append_eq_iff {front pre : List Char} :
    Position.after (front ++ pre) = .after pre ↔ '\n' ∉ front ∧ (front = [] ∨ '\n' ∈ pre) := by
  have hline : (Position.after (front ++ pre)).line = (Position.after pre).line ↔ '\n' ∉ front := by
    rw [Position.after, Position.after, List.count_append, ← List.count_eq_zero]
    dsimp only
    omega
  have hparts : Position.after (front ++ pre) = .after pre ↔
      (Position.after (front ++ pre)).line = (Position.after pre).line ∧
        (Position.after (front ++ pre)).column = (Position.after pre).column :=
    iff_of_eq (Position.mk.injEq _ _ _ _)
  rw [hparts, hline]
  refine and_congr_right fun hfront => ?_
  by_cases hpre : '\n' ∈ pre
  · simp [column_after_append hpre, hpre]
  · have hboth : '\n' ∉ front ++ pre := by simp [hfront, hpre]
    rw [column_after_of_notMem hboth, column_after_of_notMem hpre, List.length_append]
    simp [hpre]

/-! ### Lines -/

/-- Behind a line break only what follows counts for the column. -/
theorem after_lineFeed (front s : List Char) :
    Position.after (front ++ '\n' :: s) = ⟨front.count '\n' + 1 + (Position.after s).line, (Position.after s).column⟩ := by
  have hcolumn : (front ++ '\n' :: s).reverse.takeWhile (· ≠ '\n') = s.reverse.takeWhile (· ≠ '\n') := by
    rw [List.reverse_append, List.reverse_cons, List.append_assoc, List.takeWhile_append]
    split
    next h => simpa using (List.IsPrefix.eq_of_length (List.takeWhile_prefix _) h).symm
    next => rfl
  rw [after, after, hcolumn, List.count_append, List.count_cons_self]
  refine congrArg (mk · _) ?_
  dsimp only
  omega

theorem after_lines {above : List (List Char)} {last : List Char} (habove : ∀ line ∈ above, '\n' ∉ line)
    (hlast : '\n' ∉ last) :
    Position.after (above.flatMap (· ++ ['\n']) ++ last) = ⟨above.length + 1, last.length + 1⟩ := by
  induction above with
  | nil =>
    rw [List.flatMap_nil, List.nil_append, ← column_after_of_notMem hlast, after, List.count_eq_zero.mpr hlast]
    rfl
  | cons line above ih =>
    obtain ⟨hline, habove⟩ := List.forall_mem_cons.mp habove
    rw [List.flatMap_cons, List.append_assoc, List.append_assoc, List.singleton_append, after_lineFeed, ih habove,
      List.count_eq_zero.mpr hline, List.length_cons]
    refine congrArg (mk · _) ?_
    dsimp only
    omega

theorem exists_lines (s : List Char) :
    ∃ (above : List (List Char)) (last : List Char), s = above.flatMap (· ++ ['\n']) ++ last ∧ (∀ line ∈ above, '\n' ∉ line) ∧ '\n' ∉ last := by
  have hlines := List.dropLast_concat_getLast (List.splitOn_ne_nil '\n' s)
  refine ⟨(s.splitOn '\n').dropLast, (s.splitOn '\n').getLast (List.splitOn_ne_nil '\n' s), ?_, fun line hline => ?_, ?_⟩
  · rw [← intercalate_concat, hlines, List.intercalate_splitOn]
  · exact notMem_of_mem_splitOn (List.dropLast_subset _ hline)
  · exact notMem_of_mem_splitOn (List.getLast_mem _)

/-! ### The walk to a position -/

/-- The byte offset at which a walk to the position ends: over the lines above, and over the characters in front of it in
    its line. There is none if the text has not so many lines, or the line not so many characters. -/
def offset? (text : List Char) : Position → Option Nat
  | ⟨line + 1, column + 1⟩ =>
    let lines := text.splitOn '\n'
    match lines[line]? with
    | none => none
    | some last =>
      if column ≤ last.length then
        some (byteLength ((lines.take line).flatMap (· ++ ['\n']) ++ last.take column))
      else none
  | _ => none

theorem offset?_after (pre post : List Char) : (Position.after pre).offset? (pre ++ post) = some (byteLength pre) := by
  obtain ⟨above, last, rfl, habove, hlast⟩ := exists_lines pre
  obtain ⟨first, below, hpost⟩ := List.exists_cons_of_ne_nil (List.splitOn_ne_nil '\n' post)
  have hlines : (above.flatMap (· ++ ['\n']) ++ last ++ post).splitOn '\n' = above ++ (last ++ first) :: below := by
    rw [List.append_assoc, splitOn_flatMap_append habove, splitOn_append_of_notMem hlast, hpost, List.modifyHead_cons]
  rw [after_lines habove hlast, offset?, hlines]
  simp

theorem exists_of_offset?_eq_some {text : List Char} {p : Position} {n : Nat} (h : p.offset? text = some n) :
    ∃ pre post, text = pre ++ post ∧ p = .after pre ∧ byteLength pre = n := by
  revert h
  fun_cases offset? text p with
  | case1 => nofun
  | case2 line column lines last hlast hle =>
    rintro ⟨⟩
    obtain ⟨hline, rfl⟩ := List.getElem?_eq_some_iff.mp hlast
    have hsplit : lines = lines.take line ++ lines[line] :: lines.drop (line + 1) := by
      rw [← List.drop_eq_getElem_cons, List.take_append_drop]
    obtain ⟨behind, hbehind⟩ := prefix_intercalate_cons ['\n'] lines[line] (lines.drop (line + 1))
    have htext : text = (lines.take line).flatMap (· ++ ['\n']) ++ (lines[line] ++ behind) := by
      rw [hbehind, ← intercalate_append _ _ (List.cons_ne_nil _ _), ← hsplit, List.intercalate_splitOn]
    have habove : ∀ l ∈ lines.take line, '\n' ∉ l := fun l hl => notMem_of_mem_splitOn (List.mem_of_mem_take hl)
    have hfront : '\n' ∉ lines[line].take column := fun h =>
      notMem_of_mem_splitOn (List.getElem_mem hline) (List.mem_of_mem_take h)
    refine ⟨_, lines[line].drop column ++ behind, ?_, ?_, rfl⟩
    · rw [List.append_assoc, ← List.append_assoc (List.take _ _), List.take_append_drop]
      exact htext
    · rw [after_lines habove hfront, List.length_take_of_le hline.le, List.length_take_of_le hle]
  | case3 => nofun
  | case4 => nofun

/-- The position is the only one from which a walk ends at the place. -/
theorem offset?_eq_some_byteLength_iff {pre post : List Char} {p : Position} :
    p.offset? (pre ++ post) = some (byteLength pre) ↔ p = .after pre := by
  constructor
  · intro h
    obtain ⟨pre', post', htext, rfl, hlength⟩ := exists_of_offset?_eq_some h
    rw [eq_of_byteLength_eq htext hlength.symm]
  · rintro rfl
    exact offset?_after pre post

end Position
end Propositional.Text
