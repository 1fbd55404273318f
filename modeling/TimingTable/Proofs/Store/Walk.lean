import TimingTable.Store.Path
import TimingTable.Proofs.Except
import TimingTable.Proofs.Text.Pieces

/-!
# Walks

A walk enters one name after another, each from a directory that is there (`enter_eq_ok_iff`), and
it fails in one way only: at some name it is `Stuck`, for there is nothing, there is a file, or the
name is too long (`enter_eq_error_iff`, `walk_eq_error_iff`). Looking for the place of a file to write is one walk, too,
along the names that have to be opened (`target_eq`). So a path either takes a file, at the place
where that walk ends (`Takes`), or there is a reason why it takes none (`Refuses`), and `target`
tells which (`target_eq_ok_iff`, `target_eq_error_iff`).
-/

namespace TimingTable

theorem eq_of_mem_of_splitOn_eq_nil {sep : Char} {s : List Char} (h : ∀ p ∈ s.splitOn sep, p = []) :
    ∀ c ∈ s, c = sep := by
  induction s using Text.pieceInduction sep with
  | last p hp =>
    rw [List.splitOn_eq_singleton hp] at h
    simp [h p (by simp)]
  | cons p s hp ih =>
    rw [List.splitOn_append_cons_self_of_not_mem hp] at h
    obtain ⟨rfl, hs⟩ := List.forall_mem_cons.1 h
    simpa using ih hs

namespace Path
variable {text : String} {path : Path}

/-- A text that writes a path: it has no NUL, is not empty and not too long. -/
structure Readable (text : String) : Prop where
  no_nul : '\x00' ∉ text.toList
  ne_empty : text ≠ ""
  not_long : text.utf8ByteSize ≤ maxLength

/-- The path that a text writes, if it writes one. -/
def ofText (text : String) : Path :=
  ⟨text.toList.head? = some '/', namesOf text, text.toList.getLast? = some '/'⟩

/-- The names that are walked along to write a file. With a slash at the end the last name would be
that of a directory, so the walk ends at what is above it. -/
def opened (path : Path) : List String :=
  if path.endsInSlash then path.names.dropLast ++ ["."] else path.names

theorem read_eq_ok_iff : read text = .ok path ↔ Readable text ∧ ofText text = path := by
  rw [read]
  split_ifs with hnul hempty hlong
  · simp [show ¬ Readable text from fun h => h.no_nul hnul]
  · simp [show ¬ Readable text from fun h => h.ne_empty hempty]
  · simp [show ¬ Readable text from fun h => Nat.not_le_of_gt hlong h.not_long]
  · simp [show Readable text from ⟨hnul, hempty, Nat.le_of_not_lt hlong⟩, ofText]

theorem read_eq_error_iff {fault : Fault} : read text = .error fault ↔
    '\x00' ∈ text.toList ∧ fault = .innerNul ∨ text = "" ∧ fault = .notFound ∨
      '\x00' ∉ text.toList ∧ maxLength < text.utf8ByteSize ∧ fault = .nameTooLong := by
  rw [read]
  split_ifs with hnul hempty hlong
  · have hne : text ≠ "" := by rintro rfl; simp at hnul
    simp [hnul, hne, eq_comm]
  · simp [hempty, eq_comm]
  · simp [hnul, hempty, hlong, eq_comm]
  · simp [hnul, hempty, hlong]

/-- A path without names is a row of slashes. -/
theorem slashes_of_names_eq_nil (hread : read text = .ok path) (h : path.names = []) :
    path.fromTop = true ∧ path.endsInSlash = true := by
  obtain ⟨htext, rfl⟩ := read_eq_ok_iff.1 hread
  have hpieces : ∀ p ∈ text.toList.splitOn '/', p = [] := by
    simpa [ofText, namesOf] using h
  have hslash := eq_of_mem_of_splitOn_eq_nil hpieces
  have hne : text.toList ≠ [] := by simpa using htext.ne_empty
  have hhead : text.toList.head? = some '/' := by
    rw [List.head?_eq_some_head hne, hslash _ (List.head_mem hne)]
  have hlast : text.toList.getLast? = some '/' := by
    rw [List.getLast?_eq_some_getLast hne, hslash _ (List.getLast_mem hne)]
  exact ⟨by simp [ofText, hhead], by simp [ofText, hlast]⟩

end Path

namespace Store
variable {s : Store} {p q dir : Place} {n : Node} {name text : String} {names : List String}
  {fault : Fault}

theorem walk_cons (s : Store) (dir : Place) (name : String) (names : List String) :
    s.walk dir (name :: names) = (s.enter dir name >>= fun d => s.walk d names) := rfl

theorem walk_append (s : Store) (dir : Place) (names more : List String) :
    s.walk dir (names ++ more) = (s.walk dir names >>= fun d => s.walk d more) :=
  List.foldlM_append

theorem walk_concat_bind {α : Type} (s : Store) (dir : Place) (names : List String) (name : String)
    (f : Place → Except Fault α) : (s.walk dir (names ++ [name]) >>= f) =
      s.walk dir names >>= fun d => s.enter d name >>= f := by
  rw [walk_append]
  cases s.walk dir names with
  | error fault => rfl
  | ok d =>
    rw [except_ok_bind, except_ok_bind, walk_cons]
    cases s.enter d name <;> rfl

/-- Where a name leads from a directory. -/
theorem enter_eq_ok_iff : s.enter dir name = .ok q ↔ s.node? dir = some .directory ∧
    (name = "." ∧ q = dir ∨ name = ".." ∧ q = dir.dropLast ∨
      name ≠ "." ∧ name ≠ ".." ∧ name.utf8ByteSize ≤ Path.maxName ∧ q = dir ++ [name]) := by
  rw [enter]
  split
  · simp [*]
  · simp [*]
  · next h =>
    split_ifs with hdot hup hlong
    · simp [h, hdot, eq_comm]
    · simp [h, hup, eq_comm]
    · simp [h, hdot, hup, Nat.not_le_of_gt hlong]
    · simp [h, hdot, hup, Nat.le_of_not_lt hlong, eq_comm]

theorem enter_eq_error_iff : s.enter dir name = .error fault ↔
    s.node? dir = none ∧ fault = .notFound ∨
    (∃ content, s.node? dir = some (.file content)) ∧ fault = .notDirectory ∨
    s.node? dir = some .directory ∧ (name ≠ "." ∧ name ≠ "..") ∧ Path.maxName < name.utf8ByteSize ∧
      fault = .nameTooLong := by
  rw [enter, @eq_comm _ fault, @eq_comm _ fault, @eq_comm _ fault]
  split
  · next h => simp [h]
  · next h => simp [h]
  · next h =>
    split_ifs with hdot hup hlong
    · simp [h, hdot]
    · simp [h, hup]
    · simp [h, hdot, hup, hlong]
    · simp [h, hlong]

/-- A walk along names from a place comes to a name that it cannot enter. -/
inductive Stuck (s : Store) : Place → List String → Fault → Prop
  | missing {dir : Place} {name : String} {names : List String} (h : s.node? dir = none) :
    Stuck s dir (name :: names) .notFound
  | file {dir : Place} {name : String} {names : List String} {content : ByteArray}
    (h : s.node? dir = some (.file content)) : Stuck s dir (name :: names) .notDirectory
  | longName {dir : Place} {name : String} {names : List String}
    (h : s.node? dir = some .directory) (hname : name ≠ "." ∧ name ≠ "..")
    (hlong : Path.maxName < name.utf8ByteSize) : Stuck s dir (name :: names) .nameTooLong
  | later {dir d : Place} {name : String} {names : List String} {fault : Fault}
    (h : s.enter dir name = .ok d) (hd : Stuck s d names fault) :
    Stuck s dir (name :: names) fault

theorem stuck_of_enter_eq_error (h : s.enter dir name = .error fault) :
    s.Stuck dir (name :: names) fault := by
  obtain ⟨hnode, rfl⟩ | ⟨⟨content, hnode⟩, rfl⟩ | ⟨hnode, hname, hlong, rfl⟩ := enter_eq_error_iff.1 h
  · exact .missing hnode
  · exact .file hnode
  · exact .longName hnode hname hlong

theorem walk_eq_error_iff : s.walk dir names = .error fault ↔ s.Stuck dir names fault := by
  constructor
  · intro h
    induction names generalizing dir with
    | nil => cases h
    | cons name names ih =>
      rw [walk_cons, except_bind_eq_error] at h
      rcases h with h | ⟨d, hd, h⟩
      · exact stuck_of_enter_eq_error h
      · exact .later hd (ih h)
  · intro h
    induction h with
    | missing h => rw [walk_cons, enter_eq_error_iff.2 (.inl ⟨h, rfl⟩), except_error_bind]
    | file h => rw [walk_cons, enter_eq_error_iff.2 (.inr (.inl ⟨⟨_, h⟩, rfl⟩)), except_error_bind]
    | longName h hname hlong =>
      rw [walk_cons, enter_eq_error_iff.2 (.inr (.inr ⟨h, hname, hlong, rfl⟩)), except_error_bind]
    | later h _ ih => rw [walk_cons, h]; exact ih

theorem locate_eq_ok_iff : s.locate text = .ok (p, n) ↔
    Path.Readable text ∧ s.walk (s.start (.ofText text)) (Path.ofText text).names = .ok p ∧
      s.node? p = some n ∧ ((Path.ofText text).endsInSlash = true → n = .directory) := by
  simp only [locate, except_bind_eq_ok, Path.read_eq_ok_iff]
  constructor
  · rintro ⟨_, ⟨hread, rfl⟩, place, hwalk, h⟩
    refine ⟨hread, ?_⟩
    split at h
    · cases h
    · next content hnode =>
      split_ifs at h with hslash
      cases h
      exact ⟨hwalk, hnode, fun h => absurd h hslash⟩
    · next hnode =>
      cases h
      exact ⟨hwalk, hnode, fun _ => rfl⟩
  · rintro ⟨hread, hwalk, hnode, hslash⟩
    refine ⟨_, ⟨hread, rfl⟩, p, hwalk, ?_⟩
    rw [hnode]
    cases n with
    | directory => rfl
    | file content => exact if_neg fun h => by cases hslash h

/-- A place where a file can stand: there is no directory. -/
def fileAt (s : Store) (p : Place) : Except Fault Place :=
  match s.node? p with
  | some .directory => .error .isDirectory
  | _ => .ok p

theorem fileAt_eq_ok_iff : s.fileAt p = .ok q ↔ s.node? p ≠ some .directory ∧ p = q := by
  rw [fileAt]
  split
  · next h => simp [h]
  · next h =>
    have hne : s.node? p ≠ some .directory := h
    simp [hne]

theorem fileAt_eq_error_iff :
    s.fileAt p = .error fault ↔ s.node? p = some .directory ∧ fault = .isDirectory := by
  rw [fileAt]
  split
  · next h => simp [h, eq_comm]
  · next h =>
    have hne : s.node? p ≠ some .directory := h
    simp [hne]

/-- To stay in a directory is to come to one. -/
theorem enter_dot_bind_fileAt (s : Store) (dir : Place) :
    (s.enter dir "." >>= s.fileAt) = match s.node? dir with
      | none => .error .notFound
      | some (.file _) => .error .notDirectory
      | some .directory => .error .isDirectory := by
  cases h : s.node? dir with
  | none => simp [enter, h, bind, Except.bind]
  | some n => cases n <;> simp [enter, fileAt, h, bind, Except.bind]

/-- The place of a file to write is where the walk along the opened names ends, unless a directory is
there. -/
theorem target_eq (s : Store) (text : String) : s.target text =
    Path.read text >>= fun path => s.walk (s.start path) path.opened >>= s.fileAt := by
  rw [target]
  cases hread : Path.read text with
  | error fault => rfl
  | ok path =>
    rcases List.eq_nil_or_concat path.names with hnames | ⟨above, name, hnames⟩
    · -- nothing but slashes: the place is the top
      obtain ⟨htop, hslash⟩ := Path.slashes_of_names_eq_nil hread hnames
      have hopened : path.opened = ["."] := by simp [Path.opened, hslash, hnames]
      have hstart : s.start path = [] := by simp [start, htop]
      have hend : (s.walk [] ["."] >>= s.fileAt) = .error .isDirectory := rfl
      simp only [except_ok_bind, hnames, hopened, hstart, hend]
      rfl
    · rw [List.concat_eq_append] at hnames
      have hlast : path.names.getLast? = some name := by simp [hnames]
      have habove : path.names.dropLast = above := by simp [hnames]
      simp only [except_ok_bind, hlast, habove]
      cases hslash : path.endsInSlash with
      | true =>
        have hopened : path.opened = above ++ ["."] := by simp [Path.opened, hslash, habove]
        rw [hopened, walk_concat_bind]
        simp only [enter_dot_bind_fileAt]
        rfl
      | false =>
        have hopened : path.opened = above ++ [name] := by simp [Path.opened, hslash, hnames]
        rw [hopened, walk_concat_bind]
        rfl

/-- A path takes a file at a place: it is one that can be read, and its walk ends at the place, where
there is no directory. -/
structure Takes (s : Store) (text : String) (p : Place) : Prop where
  readable : Path.Readable text
  walk : s.walk (s.start (.ofText text)) (Path.ofText text).opened = .ok p
  not_directory : s.node? p ≠ some .directory

/-- A path takes no file, because of a fault in itself, on the way, or at its end. -/
inductive Refuses (s : Store) (text : String) : Fault → Prop
  | innerNul (h : '\x00' ∈ text.toList) : Refuses s text .innerNul
  | empty (h : text = "") : Refuses s text .notFound
  | tooLong (hnul : '\x00' ∉ text.toList) (h : Path.maxLength < text.utf8ByteSize) :
    Refuses s text .nameTooLong
  | onTheWay {fault : Fault} (hread : Path.Readable text)
    (h : s.Stuck (s.start (.ofText text)) (Path.ofText text).opened fault) : Refuses s text fault
  | directory {p : Place} (hread : Path.Readable text)
    (hwalk : s.walk (s.start (.ofText text)) (Path.ofText text).opened = .ok p)
    (h : s.node? p = some .directory) : Refuses s text .isDirectory

theorem target_eq_ok_iff : s.target text = .ok p ↔ s.Takes text p := by
  simp only [target_eq, except_bind_eq_ok, fileAt_eq_ok_iff, Path.read_eq_ok_iff]
  constructor
  · rintro ⟨_, ⟨hread, rfl⟩, _, hwalk, hnode, rfl⟩
    exact ⟨hread, hwalk, hnode⟩
  · intro h
    exact ⟨_, ⟨h.readable, rfl⟩, _, h.walk, h.not_directory, rfl⟩

theorem target_eq_error_iff : s.target text = .error fault ↔ s.Refuses text fault := by
  simp only [target_eq, except_bind_eq_error, fileAt_eq_error_iff, walk_eq_error_iff,
    Path.read_eq_ok_iff, Path.read_eq_error_iff]
  constructor
  · rintro ((⟨h, rfl⟩ | ⟨h, rfl⟩ | ⟨hnul, h, rfl⟩) | ⟨_, ⟨hread, rfl⟩, h | ⟨q, hwalk, hnode, rfl⟩⟩)
    · exact .innerNul h
    · exact .empty h
    · exact .tooLong hnul h
    · exact .onTheWay hread h
    · exact .directory hread hwalk hnode
  · rintro (h | h | ⟨hnul, h⟩ | ⟨hread, h⟩ | ⟨hread, hwalk, h⟩)
    · exact .inl (.inl ⟨h, rfl⟩)
    · exact .inl (.inr (.inl ⟨h, rfl⟩))
    · exact .inl (.inr (.inr ⟨hnul, h, rfl⟩))
    · exact .inr ⟨_, ⟨hread, rfl⟩, .inl h⟩
    · exact .inr ⟨_, ⟨hread, rfl⟩, .inr ⟨_, hwalk, h, rfl⟩⟩

end Store
end TimingTable
