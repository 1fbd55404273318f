import TimingTable.Proofs.Runs

/-!
# What becomes of a log

A run that loads a log gives the rows of the text at its path (`result_loadRun_eq_ok_iff`). Where there
is no text it fails with the reason for that (`result_loadRun_eq_error_iff`), and the log is said to be
missing only where some part of its path leads to nothing (`unread_notFound_iff`). A file with other
bytes than those of a text is never read in part, wherever they stand.
-/

namespace TimingTable
open Text
variable {s : Store} {path log : String} {rows : List Row} {fault : Fault} {e : ReportError}

theorem result_loadRun (path : String) (s : Store) : (loadRun path s).result =
    match s.readText path with
    | .ok log => .ok (parse log)
    | .error fault => .error (.ofRead path fault) := by
  cases hread : s.readText path with
  | ok log => rw [loadRun_of_read hread]
  | error fault => rw [loadRun_of_unread hread]

theorem store_loadRun (path : String) (s : Store) : (loadRun path s).store = s := by
  cases hread : s.readText path with
  | ok log => rw [loadRun_of_read hread]
  | error fault => rw [loadRun_of_unread hread]

theorem result_loadRun_eq_ok_iff : (loadRun path s).result = .ok rows ↔
    ∃ log : String, s.Holds path log.toUTF8 ∧ rows = parse log := by
  simp only [result_loadRun, ← Store.readText_eq_ok_iff]
  cases s.readText path <;> simp [eq_comm]

theorem result_loadRun_eq_error_iff : (loadRun path s).result = .error e ↔
    ∃ fault, s.Unread path fault ∧ e = .ofRead path fault := by
  simp only [result_loadRun, ← Store.readText_eq_error_iff]
  cases s.readText path <;> simp [eq_comm]

theorem ReportError.missingLog_eq_ofRead_iff :
    ReportError.missingLog path = .ofRead path fault ↔ fault = .notFound := by
  cases fault <;> simp [ofRead]

theorem ReportError.unreadable_eq_ofRead_iff {fault' : Fault} :
    ReportError.unreadable path fault = .ofRead path fault' ↔ fault' = fault ∧ fault ≠ .notFound := by
  cases fault <;> cases fault' <;> simp [ofRead]

theorem Store.unread_notFound_iff : s.Unread path .notFound ↔
    path = "" ∨ ∃ left p, s.ComesTo path left p ∧ s.node? p = none := by
  constructor
  · rintro (_ | h | _ | ⟨hcomes, h⟩)
    · exact .inl h
    · exact .inr ⟨_, _, hcomes, h⟩
  · rintro (h | ⟨left, p, hcomes, h⟩)
    · exact .empty h
    · exact .missing hcomes h

/-- Every state of a store and every path. Rows come from a text that is all of a file, and they are
what this text has. The log is missing where the path is empty or some part of it leads to nothing; of
any other fault the run tells that the log cannot be read, and why. So a log that cannot be read is
never one without rows. Bytes that are no text make their file unreadable, whatever texts stand before
and after them. The store stays as it is. -/
theorem loadRun_tells_faults_apart (path : String) (s : Store) :
    (∀ rows, (loadRun path s).result = .ok rows ↔
      ∃ log : String, s.Holds path log.toUTF8 ∧ rows = parse log) ∧
    ((loadRun path s).result = .error (.missingLog path) ↔
      path = "" ∨ ∃ left p, s.ComesTo path left p ∧ s.node? p = none) ∧
    (∀ fault, (loadRun path s).result = .error (.unreadable path fault) ↔
      s.Unread path fault ∧ fault ≠ .notFound) ∧
    (∀ e, (loadRun path s).result = .error e ↔
      ∃ fault, s.Unread path fault ∧ e = .ofRead path fault) ∧
    ((∃ fault, s.Unread path fault) ↔ ∀ rows, (loadRun path s).result ≠ .ok rows) ∧
    (∀ (before after : String) bytes, s.Holds path (before.toUTF8 ++ bytes ++ after.toUTF8) →
      ¬ IsText bytes → (loadRun path s).result = .error (.unreadable path .notText)) ∧
    (loadRun path s).store = s := by
  refine ⟨fun _ => result_loadRun_eq_ok_iff, ?_, fun fault => ?_,
    fun _ => result_loadRun_eq_error_iff, ?_, fun before after bytes hholds hbytes => ?_,
    store_loadRun path s⟩
  · rw [result_loadRun_eq_error_iff, ← Store.unread_notFound_iff]
    simp [ReportError.missingLog_eq_ofRead_iff]
  · rw [result_loadRun_eq_error_iff]
    simp [ReportError.unreadable_eq_ofRead_iff]
  · simp only [result_loadRun, ← Store.readText_eq_error_iff]
    cases s.readText path <;> simp
  · have htext : ¬ IsText (before.toUTF8 ++ bytes ++ after.toUTF8) := by
      rwa [isText_append_toUTF8_iff, isText_toUTF8_append_iff]
    exact result_loadRun_eq_error_iff.2 ⟨_, .notText hholds htext, rfl⟩

/-- A working directory with a log whose table is over when a byte comes that is in no text. -/
def spoiltStore : Store :=
  ⟨["w"], [(["w"], .directory),
    (["w", "log"], .file ("Runtime Min\n| go | 1 | 5 | 3 |\n\n".toUTF8 ++ ⟨#[255]⟩ ++ "done\n".toUTF8))]⟩

theorem loadRun_tells_faults_apart_spoilt :
    (∃ bytes : ByteArray, spoiltStore.Holds "log"
        ("Runtime Min\n| go | 1 | 5 | 3 |\n\n".toUTF8 ++ bytes ++ "done\n".toUTF8) ∧ ¬ IsText bytes) ∧
      (loadRun "log" spoiltStore).result = .error (.unreadable "log" .notText) := by
  have hholds : spoiltStore.Holds "log"
      ("Runtime Min\n| go | 1 | 5 | 3 |\n\n".toUTF8 ++ ⟨#[255]⟩ ++ "done\n".toUTF8) :=
    Store.holds_iff_locate.2 ⟨["w", "log"], rfl⟩
  have hbytes : ¬ IsText ⟨#[255]⟩ := by
    rw [isText_iff_isValidUTF8]
    decide +kernel
  exact ⟨⟨_, hholds, hbytes⟩,
    (loadRun_tells_faults_apart "log" spoiltStore).2.2.2.2.2.1 _ _ _ hholds hbytes⟩

end TimingTable
