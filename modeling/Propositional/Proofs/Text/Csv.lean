import Mathlib.Data.List.TakeWhile
import Propositional.Text.Csv.Reader

/-! Comma-separated values that are written can be read again. The reader goes over a written field to a place where
    the field ends, whether it has quotes or needs none; a comma or a line feed then ends it. No line that is written
    is empty, so no record is passed over. -/

namespace Propositional.Text.Csv

namespace Reader
variable {records : List Record} {fields : Record} {field s : List Char}

theorem run_cons (r : Reader) (c : Char) (s : List Char) : r.run (c :: s) = r.step c >>= fun r' => r'.run s :=
  List.foldlM_cons

theorem run_append_of_eq_some {r r' : Reader} (h : r.run s = some r') (t : List Char) : r.run (s ++ t) = r'.run t := by
  rw [run, List.foldlM_append, show s.foldlM step r = some r' from h]
  rfl

/-! ### Fields -/

theorem run_quoteChar (c : Char) :
    run ⟨records, fields, field, .quoted⟩ (quoteChar c) = some ⟨records, fields, field ++ [c], .quoted⟩ := by
  by_cases hc : c = '"'
  · subst hc
    rfl
  · rw [quoteChar, if_neg hc, run_cons]
    simp [step, run]

theorem run_quoted :
    run ⟨records, fields, field, .quoted⟩ (s.flatMap quoteChar) = some ⟨records, fields, field ++ s, .quoted⟩ := by
  induction s generalizing field with
  | nil => simp [run]
  | cons c s ih =>
    rw [List.flatMap_cons, run_append_of_eq_some (run_quoteChar c), ih, List.append_assoc]
    rfl

theorem needsQuotes_cons {c : Char} :
    needsQuotes (c :: s) = false ↔ (c ≠ ',' ∧ c ≠ '"' ∧ c ≠ '\n' ∧ c ≠ '\r') ∧ needsQuotes s = false := by
  simp [needsQuotes, and_assoc]

theorem step_plain {place : Place} {c : Char} (hplace : place = .beginning ∨ place = .plain)
    (hc : c ≠ ',' ∧ c ≠ '"' ∧ c ≠ '\n' ∧ c ≠ '\r') :
    step ⟨records, fields, field, place⟩ c = some ⟨records, fields, field ++ [c], .plain⟩ := by
  obtain rfl | rfl := hplace
  · simp [step, hc]
  · simp [step, hc]

theorem run_plain (hs : needsQuotes s = false) :
    run ⟨records, fields, field, .plain⟩ s = some ⟨records, fields, field ++ s, .plain⟩ := by
  induction s generalizing field with
  | nil => simp [run]
  | cons c s ih =>
    obtain ⟨hc, hs⟩ := needsQuotes_cons.mp hs
    rw [run_cons, step_plain (.inr rfl) hc, Option.bind_eq_bind, Option.bind_some, ih hs, List.append_assoc]
    rfl

/-- The field can end at the place, at the beginning only if it is empty. -/
def EndsAt (field : List Char) (place : Place) : Prop := place ≠ .quoted ∧ (place = .beginning → field = [])

theorem exists_run_writeField (records : List Record) (fields : Record) (field : List Char) :
    ∃ place, EndsAt field place ∧
      run ⟨records, fields, [], .beginning⟩ (writeField field) = some ⟨records, fields, field, place⟩ := by
  by_cases hq : needsQuotes field = true
  · have hopen : run ⟨records, fields, [], .beginning⟩ ['"'] = some ⟨records, fields, [], .quoted⟩ := rfl
    refine ⟨.behindQuote, ⟨nofun, nofun⟩, ?_⟩
    rw [writeField, if_pos hq, ← List.singleton_append, List.append_assoc, run_append_of_eq_some hopen,
      run_append_of_eq_some run_quoted]
    rfl
  · rw [writeField, if_neg hq]
    cases field with
    | nil => exact ⟨.beginning, ⟨nofun, fun _ => rfl⟩, rfl⟩
    | cons c s =>
      obtain ⟨hc, hs⟩ := needsQuotes_cons.mp (Bool.eq_false_iff.mpr hq)
      refine ⟨.plain, ⟨nofun, nofun⟩, ?_⟩
      rw [run_cons, step_plain (.inl rfl) hc, Option.bind_eq_bind, Option.bind_some, run_plain hs]
      rfl

theorem step_comma {place : Place} (h : EndsAt field place) :
    step ⟨records, fields, field, place⟩ ',' = some ⟨records, fields ++ [field], [], .beginning⟩ := by
  cases place with
  | quoted => exact absurd rfl h.1
  | _ => rfl

theorem step_lineFeed {place : Place} (h : EndsAt field place) (hne : fields ++ [field] ≠ [[]]) :
    step ⟨records, fields, field, place⟩ '\n' = some ⟨records ++ [fields ++ [field]], [], [], .beginning⟩ := by
  cases place with
  | quoted => exact absurd rfl h.1
  | beginning =>
    obtain rfl := h.2 rfl
    cases fields with
    | nil => exact absurd rfl hne
    | cons f fs => rfl
  | _ => rfl

/-! ### Records -/

/-- The fields that are left of a record, with the end of the line, end the record. -/
theorem run_line {record : Record} (hrecord : record ≠ []) (hne : fields ++ record ≠ [[]]) :
    run ⟨records, fields, [], .beginning⟩ (writeFields record ++ ['\n']) =
      some ⟨records ++ [fields ++ record], [], [], .beginning⟩ := by
  induction record generalizing fields with
  | nil => exact absurd rfl hrecord
  | cons field record ih =>
    obtain ⟨place, hplace, hfield⟩ := exists_run_writeField records fields field
    cases record with
    | nil =>
      rw [writeFields, List.map_singleton, List.intercalate_singleton, run_append_of_eq_some hfield, run_cons,
        step_lineFeed hplace hne]
      rfl
    | cons field' record =>
      have hne' : fields ++ [field] ++ field' :: record ≠ [[]] := by rwa [List.append_assoc]
      rw [writeFields, List.map_cons, List.map_cons, List.intercalate_cons_cons, List.append_assoc, List.append_assoc,
        run_append_of_eq_some hfield, List.singleton_append, run_cons, step_comma hplace, Option.bind_eq_bind,
        Option.bind_some, ← List.map_cons, ← writeFields, ih (List.cons_ne_nil _ _) hne', List.append_assoc]
      rfl

theorem eq_of_writeFields_eq_nil {record : Record} (hrecord : record ≠ []) (h : writeFields record = []) :
    record = [[]] := by
  obtain _ | ⟨field, _ | ⟨field', record⟩⟩ := record
  · exact absurd rfl hrecord
  · rw [writeFields, List.map_singleton, List.intercalate_singleton, writeField] at h
    split at h
    · cases h
    · rw [h]
  · rw [writeFields, List.map_cons, List.map_cons, List.intercalate_cons_cons] at h
    simp at h

theorem run_writeRecord {record : Record} (hrecord : record ≠ []) :
    run ⟨records, [], [], .beginning⟩ (writeRecord record) = some ⟨records ++ [record], [], [], .beginning⟩ := by
  rw [writeRecord]
  split
  next hempty =>
    -- An empty line would be no record, so an empty field is quoted here.
    rw [eq_of_writeFields_eq_nil hrecord hempty]
    rfl
  next hline =>
    refine run_line hrecord fun h => hline ?_
    rw [show record = [[]] from h]
    rfl

theorem run_writeRecords (h : ∀ record ∈ records, record ≠ []) (done : List Record) :
    run ⟨done, [], [], .beginning⟩ (records.flatMap writeRecord) = some ⟨done ++ records, [], [], .beginning⟩ := by
  induction records generalizing done with
  | nil => simp [run]
  | cons record records ih =>
    rw [List.flatMap_cons, run_append_of_eq_some (run_writeRecord (h record List.mem_cons_self)),
      ih (fun r hr => h r (List.mem_cons_of_mem _ hr)), List.append_assoc]
    rfl

end Reader

/-! ### Texts -/

theorem read_flatMap_writeRecord {records : List Record} (h : ∀ record ∈ records, record ≠ []) :
    read (records.flatMap writeRecord) = some records := by
  have hrun : Reader.run {} (records.flatMap writeRecord) = some ⟨records, [], [], .beginning⟩ :=
    Reader.run_writeRecords h []
  rw [read, hrun]
  rfl

example : read "a,\"b\"\"\n\",\n\"\"\n".toList = some [["a".toList, "b\"\n".toList, []], [[]]] := by decide +kernel

theorem dropWhile_eq_nil_iff {records : List Record} {length : Nat} :
    records.dropWhile (fun record => record.length == length) = [] ↔ ∀ record ∈ records, record.length = length := by
  rw [List.dropWhile_eq_nil_iff]
  simp

/-- Records are written when they all have the length of the first one. -/
theorem write_cons_eq_ok_iff {first : Record} {records : List Record} {text : List Char} :
    write (first :: records) = .ok text ↔
      (∀ record ∈ records, record.length = first.length) ∧ text = (first :: records).flatMap writeRecord := by
  rw [write, ← dropWhile_eq_nil_iff]
  split
  next hnil =>
    have htake := List.takeWhile_append_dropWhile (p := fun record : Record => record.length == first.length) (l := records)
    rw [hnil, List.append_nil] at htake
    rw [htake]
    simp [hnil, eq_comm]
  next record rest hrest => simp [hrest]

end Propositional.Text.Csv
