import TimingTable.Proofs.Store.Read

/-!
# Stores that are the same outside a place

A change at one place, of whatever kind, leaves a store that is the same outside that place
(`SameOutside`): a file is put there or dropped, or becomes a directory with things in it. A path that is
one name leads from the working directory to the place with that name and nowhere else
(`IsName.eq_of_enter`), so what is found by one name does not depend on what there is by another
(`SameOutside.locate_eq`), and neither does what is read (`readText_congr`).
-/

namespace TimingTable.Store
variable {s t : Store} {p q : Place} {n : Node} {name other path : String}

/-- The stores may differ in a place and in what is below it. -/
structure SameOutside (p : Place) (s t : Store) : Prop where
  home : t.home = s.home
  node? : ∀ q, ¬ p <+: q → t.node? q = s.node? q

theorem lookup_filter_of_not_prefix (h : ¬ p <+: q) (es : List (Place × Node)) :
    (es.filter fun e => !p.isPrefixOf e.1).lookup q = es.lookup q := by
  induction es with
  | nil => rfl
  | cons e es ih =>
    cases he : p.isPrefixOf e.1 with
    | true =>
      -- an entry that goes lies in `p`, so it is not the one that is looked up
      have hne : q ≠ e.1 := fun hq => h (hq ▸ List.isPrefixOf_iff_prefix.1 he)
      rw [List.filter_cons_of_neg (by simp [he]), List.lookup_cons, beq_false_of_ne hne, ih]
    | false => rw [List.filter_cons_of_pos (by simp [he]), List.lookup_cons, List.lookup_cons, ih]

namespace SameOutside

theorem put (p : Place) (n : Node) (s : Store) : SameOutside p s (s.put p n) := by
  refine ⟨rfl, fun q hq => node?_put_of_ne ?_⟩
  rintro rfl
  exact hq List.prefix_rfl

theorem drop (p : Place) (s : Store) : SameOutside p s (s.drop p) := by
  refine ⟨rfl, fun q hq => ?_⟩
  simp only [Store.node?, Store.drop, lookup_filter_of_not_prefix hq]

end SameOutside

/-- A path that is one name, of something in the working directory. -/
structure IsName (name : String) : Prop extends Path.Readable name where
  no_slash : '/' ∉ name.toList
  not_dots : name ≠ "." ∧ name ≠ ".."

theorem isName_iff : IsName name ↔
    ('\x00' ∉ name.toList ∧ name ≠ "" ∧ name.utf8ByteSize ≤ Path.maxLength) ∧
      '/' ∉ name.toList ∧ name ≠ "." ∧ name ≠ ".." :=
  ⟨fun h => ⟨⟨h.no_nul, h.ne_empty, h.not_long⟩, h.no_slash, h.not_dots⟩,
    fun ⟨⟨hnul, hempty, hlong⟩, hslash, hdots⟩ => ⟨⟨hnul, hempty, hlong⟩, hslash, hdots⟩⟩

instance : DecidablePred IsName := fun _ => decidable_of_iff _ isName_iff.symm

namespace IsName

theorem namesOf_eq (h : IsName name) : Path.namesOf name = [name] := by
  rw [Path.namesOf, List.splitOn_eq_singleton h.no_slash]
  simp [h.ne_empty]

theorem head?_ne (h : IsName name) : name.toList.head? ≠ some '/' := fun hhead =>
  h.no_slash (List.mem_of_head? hhead)

theorem read_eq (h : IsName name) : Path.read name = .ok ⟨false, [name], false⟩ := by
  have hlast : name.toList.getLast? ≠ some '/' := fun hlast => h.no_slash (List.mem_of_getLast? hlast)
  refine Path.read_eq_ok_iff.2 ⟨h.toReadable, ?_⟩
  simp only [Path.ofText, h.namesOf_eq, h.head?_ne, hlast, decide_false]

theorem append (h : IsName name) (hother : IsName other)
    (hlong : (name ++ "." ++ other).utf8ByteSize ≤ Path.maxLength) : IsName (name ++ "." ++ other) := by
  -- with a point between two names it is too long for `.` and `..`
  have hlength : 2 < (name ++ "." ++ other).length := by
    have hname : 0 < name.length := by simpa [Nat.pos_iff_ne_zero] using h.ne_empty
    have hextension : 0 < other.length := by simpa [Nat.pos_iff_ne_zero] using hother.ne_empty
    have hdot : ".".length = 1 := rfl
    simp only [String.length_append]
    omega
  refine ⟨⟨?_, ?_, hlong⟩, ?_, ?_⟩
  · simp [h.no_nul, hother.no_nul]
  · intro hempty
    simp [hempty] at hlength
  · simp [h.no_slash, hother.no_slash]
  · constructor <;> intro hdots <;> rw [hdots] at hlength <;> exact absurd hlength (by decide)

end IsName

theorem locate_of_isName (h : IsName name) :
    s.locate name = s.enter s.home name >>= s.foundAt false := by
  have hwalk := walk_concat_bind s s.home [] name (s.foundAt false)
  rw [List.nil_append, walk_nil, except_ok_bind] at hwalk
  rw [locate_eq, h.read_eq, except_ok_bind]
  exact hwalk

theorem IsName.eq_of_enter (h : IsName name) (henter : s.enter p name = .ok q) : q = p ++ [name] := by
  obtain ⟨-, ⟨hdot, -⟩ | ⟨hup, -⟩ | ⟨-, -, -, hq⟩⟩ := enter_eq_ok_iff.1 henter
  · exact absurd hdot h.not_dots.1
  · exact absurd hup h.not_dots.2
  · exact hq

theorem isFile_of_isName (h : IsName name) (hnode : s.node? (s.home ++ [name]) = none) :
    s.isFile name = false := by
  rw [isFile, locate_of_isName h]
  cases hplace : s.enter s.home name with
  | error fault => rfl
  | ok q => rw [h.eq_of_enter hplace, except_ok_bind, foundAt, hnode]

theorem not_prefix_home (s : Store) (name : String) : ¬ s.home ++ [name] <+: s.home := fun h =>
  absurd h.length_le (by simp)

/-- What there is by one name does not depend on what there is by another. -/
theorem SameOutside.locate_eq (h : SameOutside (s.home ++ [other]) s t) (hname : IsName name)
    (hne : name ≠ other) : t.locate name = s.locate name := by
  have henter : t.enter s.home name = s.enter s.home name := by
    simp only [enter, h.node? _ (s.not_prefix_home other)]
  rw [locate_of_isName hname, locate_of_isName hname, h.home, henter]
  cases hplace : s.enter s.home name with
  | error fault => rfl
  | ok q =>
    have hout : ¬ s.home ++ [other] <+: q := by
      rw [hname.eq_of_enter hplace]
      intro hpre
      have heq := hpre.eq_of_length (by simp)
      simp [Ne.symm hne] at heq
    rw [except_ok_bind, except_ok_bind, foundAt, foundAt, h.node? _ hout]

theorem isFile_congr (h : t.locate path = s.locate path) : t.isFile path = s.isFile path := by
  rw [isFile, h, isFile]

theorem exists?_congr (h : t.locate path = s.locate path) : t.exists? path = s.exists? path := by
  rw [exists?, h, exists?]

theorem readText_congr (h : t.locate path = s.locate path) : t.readText path = s.readText path := by
  rw [readText, readBytes, h, readText, readBytes]

/-- A path leads to a directory. -/
def IsDirectory (s : Store) (path : String) : Prop := ∃ p, s.locate path = .ok (p, .directory)

theorem isFile_iff_holds : s.isFile path = true ↔ ∃ content, s.Holds path content := by
  simp only [holds_iff_locate]
  rw [isFile]
  cases s.locate path with
  | error fault => simp
  | ok found =>
    obtain ⟨p, _ | _⟩ := found <;> simp

theorem IsDirectory.isFile_eq (h : s.IsDirectory path) : s.isFile path = false := by
  obtain ⟨p, hp⟩ := h
  rw [isFile, hp]

theorem exists?_iff : s.exists? path = true ↔ (∃ content, s.Holds path content) ∨ s.IsDirectory path := by
  simp only [holds_iff_locate, IsDirectory]
  rw [exists?]
  cases s.locate path with
  | error fault => simp [Except.isOk, Except.toBool]
  | ok found =>
    obtain ⟨p, _ | _⟩ := found <;> simp [Except.isOk, Except.toBool]

end TimingTable.Store
