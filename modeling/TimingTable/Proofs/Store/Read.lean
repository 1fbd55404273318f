import TimingTable.Proofs.Store.Walk
import TimingTable.Proofs.Text.Bytes

/-!
# Files that are read

A text is read at a path that leads to a file with its bytes (`readText_eq_ok_iff`), and otherwise one
thing stands in the way (`readText_eq_error_iff`): something is wrong with the path itself, some part
of it leads to nothing, to a file or to a name that is too long, or what stands at its end is no file
or holds no text.
-/

namespace TimingTable.Store
open Text
variable {s : Store} {p d dir : Place} {text name log : String} {names left : List String}
  {content : ByteArray} {fault : Fault}

/-- Names lead from one place to another: `.` stays, `..` goes back up and any other name goes down,
each of them from a directory. -/
inductive Reaches (s : Store) : Place → List String → Place → Prop
  | here {dir : Place} : Reaches s dir [] dir
  | stay {dir p : Place} {names : List String} (h : s.node? dir = some .directory)
    (hrest : Reaches s dir names p) : Reaches s dir ("." :: names) p
  | up {dir p : Place} {names : List String} (h : s.node? dir = some .directory)
    (hrest : Reaches s dir.dropLast names p) : Reaches s dir (".." :: names) p
  | down {dir p : Place} {name : String} {names : List String} (h : s.node? dir = some .directory)
    (hname : name ≠ "." ∧ name ≠ "..") (hlength : name.utf8ByteSize ≤ Path.maxName)
    (hrest : Reaches s (dir ++ [name]) names p) : Reaches s dir (name :: names) p

theorem Reaches.cons (h : s.enter dir name = .ok d) (hrest : s.Reaches d names p) :
    s.Reaches dir (name :: names) p := by
  obtain ⟨hdir, ⟨rfl, rfl⟩ | ⟨rfl, rfl⟩ | ⟨hdot, hup, hlength, rfl⟩⟩ := enter_eq_ok_iff.1 h
  · exact .stay hdir hrest
  · exact .up hdir hrest
  · exact .down hdir ⟨hdot, hup⟩ hlength hrest

theorem walk_eq_ok_iff : s.walk dir names = .ok p ↔ s.Reaches dir names p := by
  constructor
  · intro h
    induction names generalizing dir with
    | nil => cases h; exact .here
    | cons name names ih =>
      rw [walk_cons, except_bind_eq_ok] at h
      obtain ⟨d, hd, h⟩ := h
      exact .cons hd (ih h)
  · intro h
    induction h with
    | here => rfl
    | stay h _ ih => rw [walk_cons, enter_eq_ok_iff.2 ⟨h, .inl ⟨rfl, rfl⟩⟩]; exact ih
    | up h _ ih => rw [walk_cons, enter_eq_ok_iff.2 ⟨h, .inr (.inl ⟨rfl, rfl⟩)⟩]; exact ih
    | down h hname hlength _ ih =>
      rw [walk_cons, enter_eq_ok_iff.2 ⟨h, .inr (.inr ⟨hname.1, hname.2, hlength, rfl⟩)⟩]
      exact ih

/-- A walk fails at the first name that cannot be entered. -/
theorem exists_of_walk_eq_error (h : s.walk dir names = .error fault) : ∃ before name after d,
    names = before ++ name :: after ∧ s.Reaches dir before d ∧ s.enter d name = .error fault := by
  induction names generalizing dir with
  | nil => cases h
  | cons name names ih =>
    rw [walk_cons, except_bind_eq_error] at h
    rcases h with h | ⟨d, hd, h⟩
    · exact ⟨[], name, names, dir, rfl, .here, h⟩
    · obtain ⟨before, name', after, d', rfl, hreach, h⟩ := ih h
      exact ⟨name :: before, name', after, d', rfl, .cons hd hreach, h⟩

/-- A path, but for the names that are left, leads to a place, whatever stands there. -/
structure ComesTo (s : Store) (text : String) (left : List String) (p : Place) : Prop where
  readable : Path.Readable text
  reaches : ∃ names, (Path.ofText text).names = names ++ left ∧
    s.Reaches (s.start (.ofText text)) names p

/-- A path leads to a file with these bytes. -/
structure Holds (s : Store) (text : String) (content : ByteArray) : Prop where
  place : ∃ p, s.ComesTo text [] p ∧ s.node? p = some (.file content)
  no_slash : (Path.ofText text).endsInSlash = false

/-- Why no text is read at a path. -/
inductive Unread (s : Store) (text : String) : Fault → Prop
  | innerNul (h : '\x00' ∈ text.toList) : Unread s text .innerNul
  | empty (h : text = "") : Unread s text .notFound
  | pathTooLong (hnul : '\x00' ∉ text.toList) (h : Path.maxLength < text.utf8ByteSize) :
    Unread s text .nameTooLong
  | missing {left : List String} {p : Place} (hcomes : s.ComesTo text left p)
    (h : s.node? p = none) : Unread s text .notFound
  | throughFile {left : List String} {p : Place} {content : ByteArray} (hcomes : s.ComesTo text left p)
    (h : s.node? p = some (.file content))
    (hleft : left ≠ [] ∨ (Path.ofText text).endsInSlash = true) : Unread s text .notDirectory
  | nameTooLong {name : String} {left : List String} {p : Place}
    (hcomes : s.ComesTo text (name :: left) p) (h : s.node? p = some .directory)
    (hname : name ≠ "." ∧ name ≠ "..") (hlong : Path.maxName < name.utf8ByteSize) :
    Unread s text .nameTooLong
  | directory {p : Place} (hcomes : s.ComesTo text [] p) (h : s.node? p = some .directory) :
    Unread s text .isDirectory
  | notText {content : ByteArray} (hholds : s.Holds text content) (h : ¬ IsText content) :
    Unread s text .notText

theorem comesTo_nil_iff : s.ComesTo text [] p ↔
    Path.Readable text ∧ s.walk (s.start (.ofText text)) (Path.ofText text).names = .ok p := by
  rw [walk_eq_ok_iff]
  constructor
  · rintro ⟨hread, names, hnames, hreaches⟩
    rw [List.append_nil] at hnames
    exact ⟨hread, hnames ▸ hreaches⟩
  · rintro ⟨hread, hreaches⟩
    exact ⟨hread, _, (List.append_nil _).symm, hreaches⟩

theorem walk_nil (s : Store) (dir : Place) : s.walk dir [] = .ok dir := rfl

/-- What there is at a place for a path with or without a slash at its end. -/
def foundAt (s : Store) (endsInSlash : Bool) (p : Place) : Except Fault (Place × Node) :=
  match s.node? p with
  | none => .error .notFound
  | some (.file content) => if endsInSlash then .error .notDirectory else .ok (p, .file content)
  | some .directory => .ok (p, .directory)

theorem locate_eq (s : Store) (text : String) : s.locate text =
    Path.read text >>= fun path => s.walk (s.start path) path.names >>= s.foundAt path.endsInSlash := rfl

theorem foundAt_of_none (h : s.node? p = none) (endsInSlash : Bool) :
    s.foundAt endsInSlash p = .error .notFound := by
  simp only [foundAt, h]

theorem foundAt_of_file (h : s.node? p = some (.file content)) (endsInSlash : Bool) :
    s.foundAt endsInSlash p = if endsInSlash then .error .notDirectory else .ok (p, .file content) := by
  simp only [foundAt, h]

/-- Where a path comes to, what is found depends on what stands there and on what is left of it. -/
theorem ComesTo.locate_eq (h : s.ComesTo text left p) :
    s.locate text = s.walk p left >>= s.foundAt (Path.ofText text).endsInSlash := by
  obtain ⟨hread, names, hnames, hreaches⟩ := h
  rw [Store.locate_eq, Path.read_eq_ok_iff.2 ⟨hread, rfl⟩, except_ok_bind, hnames, walk_append,
    walk_eq_ok_iff.2 hreaches, except_ok_bind]

theorem ComesTo.locate_of_enter (h : s.ComesTo text (name :: left) p)
    (henter : s.enter p name = .error fault) : s.locate text = .error fault := by
  rw [h.locate_eq, walk_cons, henter, except_error_bind, except_error_bind]

theorem ComesTo.locate_of_none (h : s.ComesTo text left p) (hnode : s.node? p = none) :
    s.locate text = .error .notFound := by
  cases left with
  | nil => rw [h.locate_eq, walk_nil, except_ok_bind, foundAt_of_none hnode]
  | cons name left => exact h.locate_of_enter (enter_eq_error_iff.2 (.inl ⟨hnode, rfl⟩))

theorem ComesTo.locate_of_file (h : s.ComesTo text left p) (hnode : s.node? p = some (.file content))
    (hleft : left ≠ [] ∨ (Path.ofText text).endsInSlash = true) :
    s.locate text = .error .notDirectory := by
  cases left with
  | nil =>
    have hslash : (Path.ofText text).endsInSlash = true := by simpa using hleft
    rw [h.locate_eq, walk_nil, except_ok_bind, foundAt_of_file hnode, if_pos hslash]
  | cons name left =>
    exact h.locate_of_enter (enter_eq_error_iff.2 (.inr (.inl ⟨⟨content, hnode⟩, rfl⟩)))

theorem holds_iff_locate : s.Holds text content ↔ ∃ p, s.locate text = .ok (p, .file content) := by
  simp only [locate_eq_ok_iff]
  constructor
  · rintro ⟨⟨p, hcomes, hnode⟩, hslash⟩
    obtain ⟨hread, hwalk⟩ := comesTo_nil_iff.1 hcomes
    exact ⟨p, hread, hwalk, hnode, by simp [hslash]⟩
  · rintro ⟨p, hread, hwalk, hnode, hslash⟩
    exact ⟨⟨p, comesTo_nil_iff.2 ⟨hread, hwalk⟩, hnode⟩, by simpa using hslash⟩

/-! ## What is read -/

theorem readBytes_eq_ok_iff :
    s.readBytes text = .ok content ↔ ∃ p, s.locate text = .ok (p, .file content) := by
  rw [readBytes, except_bind_eq_ok]
  constructor
  · rintro ⟨⟨p, n⟩, hlocate, h⟩
    cases n with
    | file c =>
      cases h
      exact ⟨p, hlocate⟩
    | directory => cases h
  · rintro ⟨p, hlocate⟩
    exact ⟨_, hlocate, rfl⟩

theorem readText_eq_ok_iff : s.readText text = .ok log ↔ s.Holds text log.toUTF8 := by
  simp only [readText, except_bind_eq_ok, readBytes_eq_ok_iff, ← holds_iff_locate]
  constructor
  · rintro ⟨content, hholds, h⟩
    split at h
    · next decoded hdecode =>
      cases h
      exact fromUTF8?_eq_some_iff.1 hdecode ▸ hholds
    · cases h
  · intro hholds
    exact ⟨_, hholds, by rw [fromUTF8?_toUTF8]⟩

theorem readText_of_locate_error (h : s.locate text = .error fault) :
    s.readText text = .error fault := by
  rw [readText, readBytes, h, except_error_bind, except_error_bind]

theorem readText_of_read_error (h : Path.read text = .error fault) :
    s.readText text = .error fault :=
  readText_of_locate_error (by rw [locate, h, except_error_bind])

theorem readText_of_unread (h : s.Unread text fault) : s.readText text = .error fault := by
  cases h with
  | innerNul h => exact readText_of_read_error (Path.read_eq_error_iff.2 (.inl ⟨h, rfl⟩))
  | empty h => exact readText_of_read_error (Path.read_eq_error_iff.2 (.inr (.inl ⟨h, rfl⟩)))
  | pathTooLong hnul h =>
    exact readText_of_read_error (Path.read_eq_error_iff.2 (.inr (.inr ⟨hnul, h, rfl⟩)))
  | missing hcomes h => exact readText_of_locate_error (hcomes.locate_of_none h)
  | throughFile hcomes h hleft => exact readText_of_locate_error (hcomes.locate_of_file h hleft)
  | nameTooLong hcomes h hname hlong =>
    exact readText_of_locate_error (hcomes.locate_of_enter
      (enter_eq_error_iff.2 (.inr (.inr ⟨h, hname, hlong, rfl⟩))))
  | directory hcomes h =>
    obtain ⟨hread, hwalk⟩ := comesTo_nil_iff.1 hcomes
    rw [readText, readBytes, locate_eq_ok_iff.2 ⟨hread, hwalk, h, fun _ => rfl⟩]
    rfl
  | notText hholds h =>
    obtain ⟨p, hlocate⟩ := holds_iff_locate.1 hholds
    rw [readText, readBytes_eq_ok_iff.2 ⟨p, hlocate⟩, except_ok_bind, fromUTF8?_eq_none_iff.2 h]

theorem unread_of_enter_eq_error (hcomes : s.ComesTo text (name :: left) p)
    (h : s.enter p name = .error fault) : s.Unread text fault := by
  obtain ⟨hnode, rfl⟩ | ⟨⟨content, hnode⟩, rfl⟩ | ⟨hnode, hname, hlong, rfl⟩ := enter_eq_error_iff.1 h
  · exact .missing hcomes hnode
  · exact .throughFile hcomes hnode (.inl (List.cons_ne_nil _ _))
  · exact .nameTooLong hcomes hnode hname hlong

theorem holds_or_unread_of_comesTo (hcomes : s.ComesTo text [] p) :
    (∃ log : String, s.Holds text log.toUTF8) ∨ ∃ fault, s.Unread text fault := by
  cases hnode : s.node? p with
  | none => exact .inr ⟨_, .missing hcomes hnode⟩
  | some n =>
    cases n with
    | directory => exact .inr ⟨_, .directory hcomes hnode⟩
    | file content =>
      cases hslash : (Path.ofText text).endsInSlash with
      | true => exact .inr ⟨_, .throughFile hcomes hnode (.inr hslash)⟩
      | false =>
        have hholds : s.Holds text content := ⟨⟨p, hcomes, hnode⟩, hslash⟩
        by_cases htext : IsText content
        · obtain ⟨log, rfl⟩ := htext
          exact .inl ⟨log, hholds⟩
        · exact .inr ⟨_, .notText hholds htext⟩

/-- At a path there is a text, or something is in the way of one. -/
theorem holds_or_unread (s : Store) (text : String) :
    (∃ log : String, s.Holds text log.toUTF8) ∨ ∃ fault, s.Unread text fault := by
  cases hread : Path.read text with
  | error fault =>
    obtain ⟨h, rfl⟩ | ⟨h, rfl⟩ | ⟨hnul, h, rfl⟩ := Path.read_eq_error_iff.1 hread
    · exact .inr ⟨_, .innerNul h⟩
    · exact .inr ⟨_, .empty h⟩
    · exact .inr ⟨_, .pathTooLong hnul h⟩
  | ok path =>
    obtain ⟨hread, -⟩ := Path.read_eq_ok_iff.1 hread
    cases hwalk : s.walk (s.start (.ofText text)) (Path.ofText text).names with
    | error fault =>
      obtain ⟨before, name, after, d, hnames, hreaches, h⟩ := exists_of_walk_eq_error hwalk
      exact .inr ⟨_, unread_of_enter_eq_error ⟨hread, before, hnames, hreaches⟩ h⟩
    | ok p => exact holds_or_unread_of_comesTo (comesTo_nil_iff.2 ⟨hread, hwalk⟩)

theorem readText_eq_error_iff : s.readText text = .error fault ↔ s.Unread text fault := by
  refine ⟨fun h => ?_, readText_of_unread⟩
  rcases holds_or_unread s text with ⟨log, hholds⟩ | ⟨fault', hunread⟩
  · rw [readText_eq_ok_iff.2 hholds] at h
    cases h
  · rw [readText_of_unread hunread] at h
    cases h
    exact hunread

end TimingTable.Store
