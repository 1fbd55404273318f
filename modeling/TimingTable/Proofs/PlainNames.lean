import Mathlib.Data.List.Chain
import TimingTable.Proofs.Settings
import TimingTable.Proofs.Text.LowerCase

/-!
# Plain names

A name without a point and without a bracket is read as a single name, whatever else is in it
(`KeyPath.read_eq`): either it is the first name of a path and nothing is left for a step, or it is no
path at all. So an entry under such a name gives its value to the key that it names, in any case, and
nothing to the others (`Given.assign_eq`). The same holds of a variable whose name goes on with letters,
digits and single underscores, for there are no pairs of underscores to be read as points
(`Layer.assignVariable_eq`).
-/

namespace TimingTable
open Text Reader
variable {name text : String} {key : Key}

namespace Text.Reader

theorem takeWhile1_eq (p : Char → Bool) (s : List Char) : takeWhile1 p s =
    if s.takeWhile p = [] then none else some (s.takeWhile p, s.dropWhile p) := by
  have hbind : takeWhile1 p s = ((guard (s.takeWhile p ≠ []) : Reader Unit) (s.dropWhile p)).bind
      fun r => some (s.takeWhile p, r.2) := rfl
  by_cases h : s.takeWhile p = []
  · have hguard : (guard (s.takeWhile p ≠ []) : Reader Unit) = failure := if_neg (not_not_intro h)
    rw [hbind, hguard, if_pos h]
    rfl
  · have hguard : (guard (s.takeWhile p ≠ []) : Reader Unit) = pure () := if_pos h
    rw [hbind, hguard, if_neg h]
    rfl

theorem exists_of_whole? {α : Type} {r : Reader α} {a : α} (h : whole? r text = some a) :
    ∃ left, r text.toList = some (a, left) := by
  obtain ⟨_, hwhole, rfl⟩ := Option.map_eq_some_iff.1 h
  obtain ⟨⟨a, left⟩, hread, hrest⟩ := Option.bind_eq_some_iff.1 hwhole
  obtain ⟨_, -, hdone⟩ := Option.bind_eq_some_iff.1 hrest
  cases hdone
  exact ⟨left, hread⟩

end Text.Reader

namespace KeyPath
variable {s : List Char}

/-- A text without a point and without a bracket has no steps, and goes no further. -/
theorem step_eq (hdot : '.' ∉ s) (hbracket : '[' ∉ s) :
    step s = if s = [] then some (none, []) else none := by
  cases s with
  | nil => rfl
  | cons c s =>
    have hc : c ≠ '.' := fun h => hdot (h ▸ List.mem_cons_self)
    have hc' : c ≠ '[' := fun h => hbracket (h ▸ List.mem_cons_self)
    rw [if_neg (List.cons_ne_nil c s)]
    dsimp only [step, bind, StateT.bind, peek, List.head?_cons, Option.bind_some]
    generalize hnext : some c = next?
    split
    · cases hnext
    · exact absurd (Option.some.inj hnext) hc
    · exact absurd (Option.some.inj hnext) hc'
    · rfl

theorem repeating_step_eq (hdot : '.' ∉ s) (hbracket : '[' ∉ s) :
    repeating step s = if s = [] then some ([], []) else none := by
  simp only [repeating, left, bind, StateT.bind, Option.bind_some, repeatUpTo, step_eq hdot hbracket]
  split <;> rfl

/-- What is read of a text without a point and without a bracket is a single name, and all of it. -/
theorem eq_of_path_eq_some (hdot : '.' ∉ s) (hbracket : '[' ∉ s) {path' : KeyPath} {left : List Char}
    (h : path s = some (path', left)) : path' = ⟨(String.ofList s).toLower, []⟩ := by
  have hsteps : repeating step (s.dropWhile isNameChar) =
      if s.dropWhile isNameChar = [] then some ([], []) else none :=
    repeating_step_eq (fun h => hdot ((List.dropWhile_sublist _).subset h))
      (fun h => hbracket ((List.dropWhile_sublist _).subset h))
  have hsplit := List.takeWhile_append_dropWhile (p := isNameChar) (l := s)
  simp only [path, bind, StateT.bind, takeWhile1_eq] at h
  split_ifs at h with hroot
  · cases h
  · simp only [Option.bind_some, hsteps] at h
    split_ifs at h with hleft
    · rw [hleft, List.append_nil] at hsplit
      cases h
      rw [hsplit]
    · cases h

theorem read_eq (hdot : '.' ∉ name.toList) (hbracket : '[' ∉ name.toList) :
    read name = ⟨name.toLower, []⟩ := by
  rw [read]
  cases h : whole? path name with
  | none => rfl
  | some path' =>
    obtain ⟨left, hpath⟩ := exists_of_whole? h
    have hpath' := eq_of_path_eq_some hdot hbracket hpath
    rwa [String.ofList_toList] at hpath'

end KeyPath

namespace Given

/-- An entry for a key as a whole gives its value, and an entry for another key gives nothing. -/
theorem assign_eq {lower : String} (h : KeyPath.read name = ⟨lower, []⟩) (origin : Option String)
    (g : Given) (value : Data) : g.assign key origin name value =
      if lower = key.name then (ofData? origin value).getD g else g := by
  unfold assign
  rw [h]
  by_cases hname : lower = key.name
  · simp [hname]
  · simp [hname]

end Given

namespace Layer
variable {variableName rest : String}

/-- A variable for a setting, with what follows the beginning that such variables share. -/
def IsVariable (variableName rest : String) : Prop :=
  ∃ start : String, start.toLower = variableStart ∧ variableName = start ++ rest

theorem IsVariable.toLower_eq (h : IsVariable variableName rest) :
    variableName.toLower = variableStart ++ rest.toLower := by
  obtain ⟨start, hstart, rfl⟩ := h
  rw [← hstart, ← String.toList_inj]
  simp only [toList_toLower, String.toList_append, List.map_append]

theorem IsVariable.rest_eq (h : IsVariable variableName rest) :
    rest.toList = variableName.toList.drop variableStart.length := by
  obtain ⟨start, hstart, rfl⟩ := h
  have hlength : variableStart.length = start.toList.length := by
    rw [← hstart, ← String.length_toList, toList_toLower, List.length_map]
  rw [String.toList_append, hlength, List.drop_left]

theorem exists_isVariable_iff : (∃ rest, IsVariable variableName rest) ↔
    variableStart.toList <+: variableName.toLower.toList := by
  constructor
  · rintro ⟨rest, hrest⟩
    rw [hrest.toLower_eq, String.toList_append]
    exact List.prefix_append _ _
  · intro h
    rw [toList_toLower] at h
    -- cut the name where its beginning ends
    refine ⟨String.ofList (variableName.toList.drop variableStart.length),
      String.ofList (variableName.toList.take variableStart.length), ?_, ?_⟩
    · rw [← String.toList_inj, toList_toLower, String.toList_ofList, List.map_take,
        ← String.length_toList]
      exact (List.prefix_iff_eq_take.1 h).symm
    · rw [← String.ofList_append, List.take_append_drop, String.ofList_toList]

/-- Letters, digits and underscores, of which no two are next to each other. -/
structure PlainName (name : String) : Prop where
  chars : ∀ c ∈ name.toList, c.isAlphanum = true ∨ c = '_'
  single : name.toList.IsChain fun c d => ¬ (c = '_' ∧ d = '_')

theorem withPoints_eq_self {s : List Char} (h : s.IsChain fun c d => ¬ (c = '_' ∧ d = '_')) :
    withPoints s = s := by
  induction s using withPoints.induct with
  | case1 s ih => simp at h
  | case2 c s hc ih =>
    rw [withPoints, ih h.tail]
    exact fun s' => hc s'
  | case3 => rfl

namespace PlainName

theorem withPoints_toLower (h : PlainName name) :
    withPoints name.toLower.toList = name.toLower.toList := by
  apply withPoints_eq_self
  have hscore : ∀ c : Char, c.toLower = '_' → c = '_' := fun c => eq_of_toLower_eq (by decide)
  rw [toList_toLower]
  exact List.isChain_map_of_isChain Char.toLower
    (fun c d hne hlower => hne ⟨hscore c hlower.1, hscore d hlower.2⟩) h.single

theorem read_toLower (h : PlainName name) : KeyPath.read name.toLower = ⟨name.toLower, []⟩ := by
  have hplain : ∀ c : Char, c.isLower = false → c.isAlphanum = false ∧ c ≠ '_' →
      c ∉ name.toLower.toList := by
    intro c hlower hc
    apply not_mem_toLower hlower
    intro hmem
    rcases h.chars c hmem with halpha | hscore
    · exact absurd halpha (by simp [hc.1])
    · exact hc.2 hscore
  rw [KeyPath.read_eq (hplain '.' (by decide) (by decide)) (hplain '[' (by decide) (by decide)),
    toLower_toLower]

end PlainName

theorem settingName?_of_isVariable (h : IsVariable variableName rest) (hplain : PlainName rest) :
    settingName? variableName = some rest.toLower := by
  have hlength : variableStart.length = variableStart.toList.length := String.length_toList.symm
  simp only [settingName?, h.toLower_eq, String.toList_append, hlength, List.drop_left]
  rw [if_pos (by simp), hplain.withPoints_toLower, String.ofList_toList]

theorem settingName?_eq_none (h : ¬ ∃ rest, IsVariable variableName rest) :
    settingName? variableName = none :=
  if_neg fun hstart => h (exists_isVariable_iff.2 (List.isPrefixOf_iff_prefix.1 hstart))

/-- The name that the variable for a setting has, in lower case. -/
def variableOf (key : Key) : String := variableStart ++ key.name

theorem exists_isVariable_of_toLower_eq (h : variableName.toLower = variableOf key) :
    ∃ rest, IsVariable variableName rest := by
  rw [exists_isVariable_iff, h, variableOf, String.toList_append]
  exact List.prefix_append _ _

/-- What is given for a key after one more variable. -/
def assignVariable (key : Key) (g : Given) (e : String × String) : Given :=
  (settingName? e.1).elim g fun name => g.assign key none name (.string e.2)

theorem assign_ofEnvironment_eq_foldl (env : Environment) (g : Given) :
    (ofEnvironment env).assign key g = env.foldl (assignVariable key) g := by
  induction env generalizing g with
  | nil => rfl
  | cons e env ih =>
    rw [assign_ofEnvironment_cons e.1 e.2 env g, ih, List.foldl_cons, assignVariable]
    cases settingName? e.1 <;> rfl

/-- A variable with a plain name gives its text to the key that it is for, and nothing to others. -/
theorem assignVariable_eq (h : ∀ rest, IsVariable variableName rest → PlainName rest) (g : Given)
    (value : String) : assignVariable key g (variableName, value) =
      if variableName.toLower = variableOf key then .scalar value else g := by
  rw [assignVariable]
  by_cases hvariable : ∃ rest, IsVariable variableName rest
  · obtain ⟨rest, hrest⟩ := hvariable
    have hplain := h rest hrest
    have hkey : variableName.toLower = variableOf key ↔ rest.toLower = key.name := by
      rw [hrest.toLower_eq, variableOf, String.append_right_inj]
    rw [settingName?_of_isVariable hrest hplain, Option.elim_some,
      Given.assign_eq hplain.read_toLower]
    simp only [hkey]
    rfl
  · rw [settingName?_eq_none hvariable, if_neg (mt exists_isVariable_of_toLower_eq hvariable)]
    rfl

end Layer

end TimingTable
