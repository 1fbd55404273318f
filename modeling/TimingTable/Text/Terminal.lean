/-!
# Texts without control sequences

A terminal takes some characters as commands: single control characters, and sequences that an
escape character begins. `withoutControls` leaves out everything that a terminal would not print.
Tabs, line breaks and form feeds count as printed; inside a sequence that may hold them they also
end it. A text of printed characters only is left as it is (`withoutControls_of_forall`).
-/

namespace TimingTable.Text

inductive TerminalMode
  /-- Outside of any sequence. -/
  | plain
  /-- After the escape character. -/
  | escape
  /-- After the escape character and further ones that do not end the sequence. -/
  | escapeMore
  /-- After `ESC [`, up to a letter. -/
  | control
  /-- After `ESC P`. -/
  | device
  /-- In the numbers after `ESC P`. -/
  | deviceNumbers
  /-- After the numbers after `ESC P`. -/
  | deviceMore
  /-- In a text for a device, up to a string terminator. -/
  | string
  /-- In a text such as a window title, up to a bell. -/
  | title
deriving DecidableEq, Repr

/-- The control characters that count as printed. -/
def isLayout (c : Char) : Bool := c = '\t' || c = '\n' || c = '\x0c' || c = '\r'

/-- Whether one of the bytes of a character is the string terminator. -/
def hasTerminator (c : Char) : Bool := (String.utf8EncodeChar c).contains 0x9C

namespace TerminalMode

def next (mode : TerminalMode) (c : Char) : TerminalMode :=
  let n := c.toNat
  if n = 0x18 ∨ n = 0x1A then plain
  else if n = 0x1B then escape
  else match mode with
  | plain => plain
  | escape =>
    if n < 0x20 ∨ 0x7F ≤ n then escape
    else if n < 0x30 then escapeMore
    else if c = '[' then control
    else if c = ']' then title
    else if c = 'P' then device
    else if c = 'X' ∨ c = '^' ∨ c = '_' then string
    else plain
  | escapeMore => if 0x30 ≤ n ∧ n < 0x7F then plain else escapeMore
  | control => if 0x40 ≤ n ∧ n < 0x7F then plain else control
  | device =>
    if n < 0x20 ∨ 0x7F ≤ n then device
    else if n < 0x30 then deviceMore
    else if n < 0x40 then deviceNumbers
    else string
  | deviceNumbers =>
    if n < 0x20 ∨ 0x7F ≤ n ∨ (0x30 ≤ n ∧ n < 0x3C) then deviceNumbers
    else if n < 0x30 then deviceMore
    else string
  | deviceMore => if 0x30 ≤ n ∧ n < 0x7F then string else deviceMore
  | string => if 0x80 ≤ n ∧ hasTerminator c then plain else string
  | title => if n = 0x07 then plain else title

def prints (mode : TerminalMode) (c : Char) : Bool :=
  match mode with
  | plain => isLayout c || (0x20 ≤ c.toNat && c.toNat ≠ 0x7F)
  | escape | escapeMore | control => isLayout c
  | _ => false

end TerminalMode

/-- The characters that are printed from a mode on; one that is printed ends a sequence. -/
def printedFrom (mode : TerminalMode) : List Char → List Char
  | [] => []
  | c :: s => if mode.prints c then c :: printedFrom .plain s else printedFrom (mode.next c) s

/-- A text without the characters that a terminal takes as commands. -/
def withoutControls (s : String) : String := String.ofList (printedFrom .plain s.toList)

theorem printedFrom_plain_of_forall {s : List Char}
    (h : ∀ c ∈ s, TerminalMode.plain.prints c = true) : printedFrom .plain s = s := by
  induction s with
  | nil => rfl
  | cons c s ih =>
    rw [printedFrom, if_pos (h c (by simp)), ih fun d hd => h d (by simp [hd])]

theorem withoutControls_of_forall {s : String}
    (h : ∀ c ∈ s.toList, TerminalMode.plain.prints c = true) : withoutControls s = s := by
  rw [withoutControls, printedFrom_plain_of_forall h, String.ofList_toList]

end TimingTable.Text
