import TimingTable.Proofs.Structures

/-!
# What is decoded

The fields of a row are texts, and the one field of a table is its list of rows. So a row or a table is
decoded from whatever holds it and from nothing else (`Row.decode_eq_ok_iff`, `decodeRows_eq_ok_iff`),
and what is written of it, in either shape, holds it (`tableHolds_rowsToDataIn`).
-/

namespace TimingTable
open Decoder

/-! ## Rows -/

/-- The fields of a row, all of them texts. -/
def Row.textFields : List (Decoder.Field String) := Row.columns.map (⟨·, string .text⟩)

/-- The value has the texts of the row, in an object under the names of the columns, among whatever
else, or as an array of just these. -/
inductive Row.Holds : Data → Row → Prop
  | object {entries : List (String × Data)} {r : Row}
    (h : ∀ c ∈ Row.columns.zip r.fields, entries.lookup c.1 = some (.string c.2)) :
    Row.Holds (.object entries) r
  | array (r : Row) : Row.Holds (.array (r.fields.map .string)) r

theorem Row.nodup_textFields : (Row.textFields.map (·.name)).Nodup := by decide

theorem Row.holds_iff_accepts {v : Data} {r : Row} :
    Row.Holds v r ↔ Accepts Row.textFields v r.fields := by
  constructor
  · rintro (h | _)
    · refine .object ?_
      simpa [Row.columns, Row.fields, Row.textFields, string_eq_ok_iff] using h
    · exact .array (readInOrder_string_iff.2 ⟨rfl, rfl⟩)
  · rintro (h | h)
    · refine .object ?_
      simpa [Row.columns, Row.fields, Row.textFields, string_eq_ok_iff] using h
    · obtain ⟨-, rfl⟩ := readInOrder_string_iff.1 h
      exact .array r

theorem Row.decode_eq_bind (v : Data) : Row.decode v =
    structured "BenchRecord" Row.textFields v >>= fun texts =>
      match Row.ofFields? texts with
      | some row => .ok row
      | none => .error (.wrongType v (.structure "BenchRecord")) := rfl

/-- What is accepted as a structure with four texts is the texts of a row. -/
theorem Row.exists_fields_eq {v : Data} {texts : List String}
    (h : structured "BenchRecord" Row.textFields v = .ok texts) : ∃ r : Row, texts = r.fields := by
  have hlength := (structured_eq_ok_iff.1 h).length_eq
  match texts, hlength with
  | [runtime, min, max, avg], _ => exact ⟨⟨runtime, min, max, avg⟩, rfl⟩

theorem Row.decode_of_structured {v : Data} {r : Row}
    (h : structured "BenchRecord" Row.textFields v = .ok r.fields) : Row.decode v = .ok r := by
  rw [Row.decode_eq_bind, h, except_ok_bind, Row.ofFields?_fields]

theorem Row.decode_eq_ok_iff {v : Data} {r : Row} : Row.decode v = .ok r ↔ Row.Holds v r := by
  have haccepts : structured "BenchRecord" Row.textFields v = .ok r.fields ↔
    Accepts Row.textFields v r.fields := structured_eq_ok_iff
  rw [Row.holds_iff_accepts, ← haccepts]
  refine ⟨fun h => ?_, Row.decode_of_structured⟩
  cases htexts : structured "BenchRecord" Row.textFields v with
  | error e =>
    rw [Row.decode_eq_bind, htexts] at h
    cases h
  | ok texts =>
    obtain ⟨r', rfl⟩ := Row.exists_fields_eq htexts
    rw [Row.decode_of_structured htexts] at h
    cases h
    rfl

theorem Row.decode_eq_error_iff {v : Data} {e : DecodeError} :
    Row.decode v = .error e ↔ Refuses "BenchRecord" Row.textFields v e := by
  rw [← structured_eq_error_iff Row.nodup_textFields]
  cases htexts : structured "BenchRecord" Row.textFields v with
  | error e' => rw [Row.decode_eq_bind, htexts, except_error_bind]; simp
  | ok texts =>
    obtain ⟨r, rfl⟩ := Row.exists_fields_eq htexts
    simp [Row.decode_of_structured htexts]

theorem Row.decode_congr {v v' : Data}
    (h : structured "BenchRecord" Row.textFields v = structured "BenchRecord" Row.textFields v') :
    Row.decode v = Row.decode v' := by
  cases htexts : structured "BenchRecord" Row.textFields v' with
  | error e => rw [Row.decode_eq_bind, Row.decode_eq_bind, h, htexts]; rfl
  | ok texts =>
    obtain ⟨r, rfl⟩ := Row.exists_fields_eq htexts
    rw [Row.decode_of_structured htexts, Row.decode_of_structured (h.trans htexts)]

/-! ## Tables -/

/-- The only field of a table. -/
def rowsField : Decoder.Field (List Row) := ⟨"records", list Row.decode⟩

/-- The value has an array under the name of the rows, or as the only item of an array, and the items
of that array have the rows. -/
inductive TableHolds : Data → List Row → Prop
  | object {entries : List (String × Data)} {vs : List Data} {rows : List Row}
    (h : entries.lookup "records" = some (.array vs)) (hrows : List.Forall₂ Row.Holds vs rows) :
    TableHolds (.object entries) rows
  | array {vs : List Data} {rows : List Row} (hrows : List.Forall₂ Row.Holds vs rows) :
    TableHolds (.array [.array vs]) rows

theorem decodeRows_eq_bind (v : Data) : decodeRows v =
    structured "ParseResult" [rowsField] v >>= fun tables => .ok tables.flatten := rfl

theorem list_decode_eq_ok_iff {v : Data} {rows : List Row} :
    list Row.decode v = .ok rows ↔ ∃ vs, v = .array vs ∧ List.Forall₂ Row.Holds vs rows := by
  simp only [list_eq_ok_iff, Row.decode_eq_ok_iff]

theorem tableHolds_iff_accepts {v : Data} {rows : List Row} :
    TableHolds v rows ↔ Accepts [rowsField] v [rows] := by
  constructor
  · rintro (⟨h, hrows⟩ | hrows)
    · exact .object (.cons ⟨_, h, list_decode_eq_ok_iff.2 ⟨_, rfl, hrows⟩⟩ .nil)
    · exact .array (.cons (list_decode_eq_ok_iff.2 ⟨_, rfl, hrows⟩) .nil)
  · rintro (h | h)
    · obtain ⟨v, hv, hdecode⟩ := (List.forall₂_cons.1 h).1
      obtain ⟨vs, rfl, hrows⟩ := list_decode_eq_ok_iff.1 hdecode
      exact .object hv hrows
    · rcases h with _ | ⟨hdecode, _ | _⟩
      obtain ⟨vs, rfl, hrows⟩ := list_decode_eq_ok_iff.1 hdecode
      exact .array hrows

theorem decodeRows_eq_ok_iff {v : Data} {rows : List Row} :
    decodeRows v = .ok rows ↔ TableHolds v rows := by
  have haccepts : structured "ParseResult" [rowsField] v = .ok [rows] ↔
    Accepts [rowsField] v [rows] := structured_eq_ok_iff
  rw [tableHolds_iff_accepts, ← haccepts, decodeRows_eq_bind, except_bind_eq_ok]
  constructor
  · rintro ⟨tables, h, hrows⟩
    have hlength := (structured_eq_ok_iff.1 h).length_eq
    obtain ⟨table, rfl⟩ := List.length_eq_one_iff.1 hlength
    cases hrows
    simpa using h
  · intro h
    exact ⟨[rows], h, by simp⟩

theorem decodeRows_eq_error_iff {v : Data} {e : DecodeError} :
    decodeRows v = .error e ↔ Refuses "ParseResult" [rowsField] v e := by
  rw [← structured_eq_error_iff (by simp), decodeRows_eq_bind, except_bind_eq_error]
  simp

/-- Why a value is not a list of rows: it is no array, or its first item that is not a row says why. -/
inductive RefusesRows : Data → DecodeError → Prop
  | wrongKind {v : Data} (harray : ∀ vs, v ≠ .array vs) : RefusesRows v (.wrongType v .sequence)
  | wrongRow {us vs : List Data} {u : Data} {e : DecodeError} (hus : ∀ w ∈ us, ∃ r, Row.Holds w r)
    (hu : Refuses "BenchRecord" Row.textFields u e) : RefusesRows (.array (us ++ u :: vs)) e

theorem rowsField_decode_eq_error_iff {v : Data} {e : DecodeError} :
    rowsField.decode v = .error e ↔ RefusesRows v e := by
  have hlist : rowsField.decode v = list Row.decode v := rfl
  simp only [hlist, list_eq_error_iff, Row.decode_eq_ok_iff, Row.decode_eq_error_iff]
  constructor
  · rintro (⟨harray, rfl⟩ | ⟨us, u, vs, rfl, hus, hu⟩)
    · exact .wrongKind harray
    · exact .wrongRow hus hu
  · rintro (harray | ⟨hus, hu⟩)
    · exact .inl ⟨harray, rfl⟩
    · exact .inr ⟨_, _, _, rfl, hus, hu⟩

/-! ## Values that are written -/

/-- The two shapes of a structure. -/
inductive Shape
  | named
  | positional
deriving DecidableEq, Repr

/-- The value with the given fields in a shape. -/
def Shape.data : Shape → List (String × Data) → Data
  | named, entries => .object entries
  | positional, entries => .array (entries.map (·.2))

def Row.toDataIn (shape : Shape) (r : Row) : Data :=
  shape.data (Row.columns.zip (r.fields.map .string))

/-- A table in a shape, with each row in its own. -/
def rowsToDataIn (shape : Shape) (rows : List (Shape × Row)) : Data :=
  shape.data [("records", .array (rows.map fun (s, r) => r.toDataIn s))]

theorem Row.holds_toDataIn (shape : Shape) (r : Row) : Row.Holds (r.toDataIn shape) r := by
  cases shape with
  | named => exact .object (by simp [Row.columns, Row.fields, List.lookup_cons])
  | positional => exact .array r

theorem tableHolds_rowsToDataIn (shape : Shape) (rows : List (Shape × Row)) :
    TableHolds (rowsToDataIn shape rows) (rows.map (·.2)) := by
  have hrows : List.Forall₂ Row.Holds (rows.map fun (s, r) => r.toDataIn s) (rows.map (·.2)) := by
    rw [List.forall₂_map_left_iff, List.forall₂_map_right_iff, List.forall₂_same]
    exact fun row _ => row.2.holds_toDataIn row.1
  cases shape with
  | named => exact .object rfl hrows
  | positional => exact .array hrows

theorem rowsToData_eq (rows : List Row) :
    rowsToData rows = rowsToDataIn .named (rows.map (Shape.named, ·)) := by
  simp only [rowsToDataIn, List.map_map]
  rfl

/-- Decoding undoes writing in either shape, at either level, and accepts nothing but the two shapes.
What it refuses is refused for the first reason there is: in an object for the least named wrong value
before the first missing field, in an array for the first wrong item before its length, in a list of
rows for its first wrong row. Entries under other names do not matter. -/
theorem decode_accepts_exactly_two_shapes :
    (∀ r : Row, Row.decode r.toData = .ok r) ∧ (∀ rows, decodeRows (rowsToData rows) = .ok rows) ∧
    (∀ shape (r : Row), Row.decode (r.toDataIn shape) = .ok r) ∧
    (∀ shape rows, decodeRows (rowsToDataIn shape rows) = .ok (rows.map (·.2))) ∧
    (∀ v r, Row.decode v = .ok r ↔ Row.Holds v r) ∧
    (∀ v rows, decodeRows v = .ok rows ↔ TableHolds v rows) ∧
    (∀ v e, Row.decode v = .error e ↔ Refuses "BenchRecord" Row.textFields v e) ∧
    (∀ v e, decodeRows v = .error e ↔ Refuses "ParseResult" [rowsField] v e) ∧
    (∀ v e, rowsField.decode v = .error e ↔ RefusesRows v e) ∧
    (∀ entries entries', (∀ name ∈ Row.columns, entries.lookup name = entries'.lookup name) →
      Row.decode (.object entries) = Row.decode (.object entries')) ∧
    (∀ entries entries', entries.lookup "records" = entries'.lookup "records" →
      decodeRows (.object entries) = decodeRows (.object entries')) := by
  refine ⟨fun r => Row.decode_eq_ok_iff.2 (r.holds_toDataIn .named), fun rows => ?_,
    fun shape r => Row.decode_eq_ok_iff.2 (r.holds_toDataIn shape),
    fun shape rows => decodeRows_eq_ok_iff.2 (tableHolds_rowsToDataIn shape rows),
    fun _ _ => Row.decode_eq_ok_iff, fun _ _ => decodeRows_eq_ok_iff,
    fun _ _ => Row.decode_eq_error_iff, fun _ _ => decodeRows_eq_error_iff,
    fun _ _ => rowsField_decode_eq_error_iff, fun entries entries' h => ?_,
    fun entries entries' h => ?_⟩
  · have hholds := tableHolds_rowsToDataIn .named (rows.map (Shape.named, ·))
    rw [← rowsToData_eq] at hholds
    simpa [Function.comp_def] using decodeRows_eq_ok_iff.2 hholds
  · exact Row.decode_congr (structured_congr (by simpa [Row.textFields] using h))
  · rw [decodeRows_eq_bind, decodeRows_eq_bind, structured_congr (by simpa [rowsField] using h)]

/-- An object with a wrong time, no mean time and an entry that is no field. -/
def notedEntries : List (String × Data) :=
  [("note", .array [.null]), ("runtime", .string "go"), ("min", .int 1), ("max", .string "2")]

theorem decode_accepts_exactly_two_shapes_noted :
    Row.decode (.object notedEntries) = Row.decode (.object notedEntries.tail) ∧
    decodeRows (.object (("records", .array [.object notedEntries]) :: notedEntries)) =
      decodeRows (.object [("records", .array [.object notedEntries])]) ∧
    decodeRows (.object [("records", .array [.object notedEntries])]) =
      .error (.wrongType (.int 1) .text) := by
  obtain ⟨-, -, -, -, -, -, -, htable, hrows, hother, hothers⟩ := decode_accepts_exactly_two_shapes
  -- before the name of the wrong time stands that of no field but the mean time, which is not there
  have hright : ∀ g ∈ Row.textFields, g.name < "min" → g.RightIn notedEntries := by
    intro g hg hlt v hv
    simp only [Row.textFields, Row.columns, List.map_cons, List.map_nil, List.mem_cons,
      List.not_mem_nil, or_false] at hg
    rcases hg with rfl | rfl | rfl | rfl
    · cases hv; exact ⟨_, rfl⟩
    · exact absurd hlt (String.lt_irrefl _)
    · cases hv; exact ⟨_, rfl⟩
    · cases hv
  have hmin : Refuses "BenchRecord" Row.textFields (.object notedEntries) (.wrongType (.int 1) .text) :=
    .wrongValue (f := ⟨"min", string .text⟩) (by simp [Row.textFields, Row.columns]) rfl rfl hright
  have hrow : RefusesRows (.array ([] ++ [.object notedEntries])) (.wrongType (.int 1) .text) :=
    .wrongRow (by simp) hmin
  have hfirst : ∀ g ∈ [rowsField], g.name < rowsField.name →
      g.RightIn [("records", .array [.object notedEntries])] := by
    intro g hg hlt
    obtain rfl := List.mem_singleton.1 hg
    exact absurd hlt (String.lt_irrefl _)
  exact ⟨hother _ _ (by simp [notedEntries, Row.columns, List.lookup_cons]), hothers _ _ rfl,
    (htable _ _).2 (.wrongValue (f := rowsField) (by simp) rfl ((hrows _ _).2 hrow) hfirst)⟩

end TimingTable
