import TimingTable.Proofs.Store.Read

/-!
# Written files

A file that is put where there is no directory makes no directory come or go. Walks go through
directories only, so the same walks succeed, to the same places (`walk_put_file_eq_ok_iff`). Every
path to another place leads to what was there before (`locate_put_file_eq_ok_iff`), while the path
that took the file leads to it (`readBytes_put_file`) and takes a file at the same place again
(`Takes.put_file`). `SameFile` is the one case in which a written file is read.
-/

namespace TimingTable.Store
variable {s : Store} {p q dir : Place} {m n : Node} {name text other : String} {names : List String}
  {content : ByteArray} {log : String} {fault : Fault}

theorem putEntry_putEntry (es : List (Place × Node)) :
    putEntry p n (putEntry p m es) = putEntry p n es := by
  induction es with
  | nil => simp [putEntry]
  | cons e es ih =>
    by_cases h : e.1 = p
    · simp [putEntry, h]
    · simp [putEntry, h, ih]

theorem put_put (s : Store) : (s.put p m).put p n = s.put p n := by
  simp only [put, putEntry_putEntry]

@[simp] theorem start_put (s : Store) (path : Path) : (s.put p n).start path = s.start path := rfl

theorem node?_put_file_eq_directory_iff (hp : s.node? p ≠ some .directory) :
    (s.put p (.file content)).node? q = some .directory ↔ s.node? q = some .directory := by
  by_cases hq : q = p
  · subst hq
    have hne : q ≠ [] := by
      rintro rfl
      exact hp rfl
    simp [node?_put_self hne, hp]
  · rw [node?_put_of_ne hq]

theorem walk_put_file_eq_ok_iff (hp : s.node? p ≠ some .directory) :
    (s.put p (.file content)).walk dir names = .ok q ↔ s.walk dir names = .ok q := by
  induction names generalizing dir with
  | nil => rfl
  | cons name names ih =>
    simp only [walk_cons, except_bind_eq_ok, enter_eq_ok_iff, node?_put_file_eq_directory_iff hp, ih]

theorem locate_put_file_eq_ok_iff (hp : s.node? p ≠ some .directory) (hq : q ≠ p) :
    (s.put p (.file content)).locate text = .ok (q, n) ↔ s.locate text = .ok (q, n) := by
  simp only [locate_eq_ok_iff, start_put, walk_put_file_eq_ok_iff hp, node?_put_of_ne hq]

namespace Takes

theorem endsInSlash_eq_false (h : s.Takes text p) : (Path.ofText text).endsInSlash = false := by
  by_contra hslash
  -- with a slash at the end the walk stays in the directory that it came to
  have hwalk := h.walk
  rw [Path.opened, if_pos (by simpa using hslash), walk_append, except_bind_eq_ok] at hwalk
  obtain ⟨d, -, hd⟩ := hwalk
  rw [walk_cons, except_bind_eq_ok] at hd
  obtain ⟨q, hq, hp⟩ := hd
  cases hp
  obtain ⟨hd, ⟨-, rfl⟩ | ⟨hup, -⟩ | ⟨hdot, -⟩⟩ := enter_eq_ok_iff.1 hq
  · exact h.not_directory hd
  · exact absurd hup (by decide)
  · exact absurd rfl hdot

theorem not_refuses (h : s.Takes text p) : ¬ s.Refuses text fault := by
  rw [← target_eq_error_iff, target_eq_ok_iff.2 h]
  nofun

theorem ne_nil (h : s.Takes text p) : p ≠ [] := by
  rintro rfl
  exact h.not_directory rfl

theorem put_file (h : s.Takes text p) : (s.put p (.file content)).Takes text p where
  readable := h.readable
  walk := (walk_put_file_eq_ok_iff h.not_directory).2 h.walk
  not_directory hd := h.not_directory ((node?_put_file_eq_directory_iff h.not_directory).1 hd)

theorem locate_put_file (h : s.Takes text p) :
    (s.put p (.file content)).locate text = .ok (p, .file content) := by
  have hslash := h.endsInSlash_eq_false
  have htakes : (s.put p (.file content)).Takes text p := h.put_file
  have hwalk := htakes.walk
  rw [Path.opened, if_neg (by simp [hslash])] at hwalk
  exact locate_eq_ok_iff.2 ⟨h.readable, hwalk, node?_put_self h.ne_nil, by simp [hslash]⟩

theorem eq (hp : s.Takes text p) (hq : s.Takes text q) : p = q := by
  have h := hp.walk.symm.trans hq.walk
  simpa using h

end Takes

/-- A store with texts in its working directory. -/
def ofTexts (texts : List (String × String)) : Store :=
  ⟨["w"], (["w"], .directory) :: texts.map fun t => (["w", t.1], .file t.2.toUTF8)⟩

/-- Whoever reads the one path and writes the other reads and writes the same file. -/
def SameFile (s : Store) (source target : String) : Prop :=
  ∃ p n, s.locate source = .ok (p, n) ∧ s.Takes target p

/-- One file may be another one, and everything else is the same. -/
structure SameBut (p : Place) (s t : Store) : Prop where
  home : t.home = s.home
  node? : ∀ q, q ≠ p → t.node? q = s.node? q
  locate : ∀ path q n, q ≠ p → (t.locate path = .ok (q, n) ↔ s.locate path = .ok (q, n))

namespace Takes

theorem sameBut_put_file (h : s.Takes text p) : SameBut p s (s.put p (.file content)) :=
  ⟨rfl, fun _ hq => node?_put_of_ne hq, fun _ _ _ hq => locate_put_file_eq_ok_iff h.not_directory hq⟩

theorem readBytes_put_file (h : s.Takes text p) :
    (s.put p (.file content)).readBytes text = .ok content :=
  readBytes_eq_ok_iff.2 ⟨p, h.locate_put_file⟩

theorem readText_put_file (h : s.Takes text p) (written : String) :
    (s.put p (.file written.toUTF8)).readText text = .ok written :=
  readText_eq_ok_iff.2 (holds_iff_locate.2 ⟨p, h.locate_put_file⟩)

/-- A file that is read stays as it is when another one is written. -/
theorem readText_put_file_of_ne (h : s.Takes text p) (hne : ¬ s.SameFile other text)
    (hread : s.readText other = .ok log) : (s.put p (.file content)).readText other = .ok log := by
  obtain ⟨q, hlocate⟩ := holds_iff_locate.1 (readText_eq_ok_iff.1 hread)
  have hq : q ≠ p := by
    rintro rfl
    exact hne ⟨q, _, hlocate, h⟩
  exact readText_eq_ok_iff.2
    (holds_iff_locate.2 ⟨q, (locate_put_file_eq_ok_iff h.not_directory hq).2 hlocate⟩)

end Takes

namespace SameFile

theorem locate_put_file (h : s.SameFile other text) (hp : s.Takes text p) :
    (s.put p (.file content)).locate other = .ok (p, .file content) := by
  obtain ⟨q, n, hlocate, hq⟩ := h
  obtain rfl := hp.eq hq
  obtain ⟨hread, hwalk, hnode, hslash⟩ := locate_eq_ok_iff.1 hlocate
  -- there is no directory at the place, so the path to it does not end in a slash
  have hslash' : (Path.ofText other).endsInSlash = false := by
    by_contra h
    have hdir : n = .directory := hslash (by simpa using h)
    exact hp.not_directory (hdir ▸ hnode)
  exact locate_eq_ok_iff.2 ⟨hread, (walk_put_file_eq_ok_iff hp.not_directory).2 hwalk,
    node?_put_self hp.ne_nil, by simp [hslash']⟩

theorem put_file (h : s.SameFile other text) (hp : s.Takes text p) :
    (s.put p (.file content)).SameFile other text :=
  ⟨p, .file content, h.locate_put_file hp, hp.put_file⟩

/-- What is written to a file that is read is what is read next. -/
theorem readText_put_file (h : s.SameFile other text) (hp : s.Takes text p) (written : String) :
    (s.put p (.file written.toUTF8)).readText other = .ok written :=
  readText_eq_ok_iff.2 (holds_iff_locate.2 ⟨p, h.locate_put_file hp⟩)

end SameFile

end TimingTable.Store
