import TemplateProjection.Options

/-!
# Positions in a text

A cursor counts the lines and columns of what it has passed: a newline takes it to the start of the next line, any other
character one column on. A text is *laid out* from a cursor by a list of pieces if it consists of the pieces, each at
its own position and in their order, with nothing but spaces around them (`LaidOut`). Then every piece stands in the
text where it says (`LaidOut.standsIn`).

A walk is a cursor with the pieces it has placed. `Walk.Writes w cs w'` says that the characters `cs` take the walk `w`
to `w'` by spaces and placed pieces alone; what a walk from the origin writes is laid out by its pieces
(`Walk.Writes.laidOut`).
-/

namespace TemplateProjection

/-! ## Cursors -/

structure Cursor where
  line : Nat
  column : Nat
  deriving DecidableEq, Repr

namespace Cursor

def origin : Cursor := ⟨0, 0⟩

/-- Some columns on, on the same line. -/
def right (c : Cursor) (n : Nat) : Cursor := ⟨c.line, c.column + n⟩

/-- The start of the next line. -/
def nextLine (c : Cursor) : Cursor := ⟨c.line + 1, 0⟩

/-- Behind one character. -/
def step (c : Cursor) (ch : Char) : Cursor := if ch = '\n' then c.nextLine else c.right 1

/-- Behind some characters. -/
def after (c : Cursor) (cs : List Char) : Cursor := cs.foldl step c

theorem after_append (c : Cursor) (as bs : List Char) : c.after (as ++ bs) = (c.after as).after bs :=
  List.foldl_append

theorem right_right (c : Cursor) (m n : Nat) : (c.right m).right n = c.right (m + n) := by
  simp only [right, Nat.add_assoc]

end Cursor

/-! ## Pieces -/

/-- A text with the position where it stands. -/
structure Piece where
  position : Cursor
  text : String
  deriving DecidableEq, Repr

/-- In the text, the piece is found at its position. -/
def Piece.StandsIn (p : Piece) (cs : List Char) : Prop :=
  ∃ before behind, cs = before ++ p.text.toList ++ behind ∧ Cursor.origin.after before = p.position

/-- From the cursor on, the text consists of the pieces at their positions, and of spaces. -/
inductive LaidOut : Cursor → List Piece → List Char → Prop
  | nil (c : Cursor) : LaidOut c [] []
  | space {c : Cursor} {ps : List Piece} {cs : List Char} : LaidOut (c.right 1) ps cs → LaidOut c ps (' ' :: cs)
  | piece {c : Cursor} {s : String} {ps : List Piece} {cs : List Char} :
      LaidOut (c.after s.toList) ps cs → LaidOut c (⟨c, s⟩ :: ps) (s.toList ++ cs)

/-- A piece of a laid out text, which may have characters before it, stands where it says. -/
theorem LaidOut.standsIn_append {c : Cursor} {ps : List Piece} {cs : List Char} (h : LaidOut c ps cs) :
    ∀ front, Cursor.origin.after front = c → ∀ p ∈ ps, p.StandsIn (front ++ cs) := by
  induction h with
  | nil c => exact fun _ _ p hp => absurd hp List.not_mem_nil
  | @space c ps cs _ ih =>
    intro front hfront p hp
    have hspace : Cursor.origin.after (front ++ [' ']) = c.right 1 := by rw [Cursor.after_append, hfront]; rfl
    simpa using ih (front ++ [' ']) hspace p hp
  | @piece c s ps cs _ ih =>
    intro front hfront p hp
    rcases List.mem_cons.1 hp with rfl | hp
    · exact ⟨front, cs, by simp, hfront⟩
    · have hpiece : Cursor.origin.after (front ++ s.toList) = c.after s.toList := by
        rw [Cursor.after_append, hfront]
      simpa using ih (front ++ s.toList) hpiece p hp

/-- Every piece of a text that is laid out from the origin stands in it. -/
theorem LaidOut.standsIn {ps : List Piece} {cs : List Char} (h : LaidOut .origin ps cs) :
    ∀ p ∈ ps, p.StandsIn cs :=
  h.standsIn_append [] rfl

/-! ## Walks -/

structure Walk where
  pieces : List Piece := []
  cursor : Cursor := .origin

namespace Walk

variable {w w' w'' : Walk} {cs ds : List Char}

/-- Some columns on, with nothing placed. -/
def right (w : Walk) (n : Nat) : Walk := ⟨w.pieces, w.cursor.right n⟩

/-- A text placed at the cursor, which advances over it. -/
def place (w : Walk) (s : String) : Walk := ⟨w.pieces ++ [⟨w.cursor, s⟩], w.cursor.after s.toList⟩

/-- The end of a line. -/
def lineEnd (w : Walk) : Walk := ⟨w.pieces ++ [⟨w.cursor, "\n"⟩], w.cursor.nextLine⟩

theorem right_right (w : Walk) (m n : Nat) : (w.right m).right n = w.right (m + n) := by
  simp only [right, Cursor.right_right]

/-- The characters take one walk to the other. -/
inductive Writes : Walk → List Char → Walk → Prop
  | nil (w : Walk) : Writes w [] w
  | space {w w' : Walk} {cs : List Char} : Writes (w.right 1) cs w' → Writes w (' ' :: cs) w'
  | place {w w' : Walk} {s : String} {cs : List Char} : Writes (w.place s) cs w' → Writes w (s.toList ++ cs) w'

theorem Writes.trans (h : Writes w cs w') (h' : Writes w' ds w'') : Writes w (cs ++ ds) w'' := by
  induction h with
  | nil w => exact h'
  | space _ ih => exact .space (ih h')
  | place _ ih =>
    rw [List.append_assoc]
    exact .place (ih h')

theorem writes_place (w : Walk) (s : String) : Writes w s.toList (w.place s) := by
  have h : Writes w (s.toList ++ []) (w.place s) := .place (.nil _)
  rwa [List.append_nil] at h

theorem writes_lineEnd (w : Walk) : Writes w ['\n'] w.lineEnd := writes_place w "\n"

theorem writes_spaces (w : Walk) : ∀ n : Nat, Writes w (spaces n).toList (w.right n)
  | 0 => .nil w
  | n + 1 => by
    have h := writes_spaces (w.right 1) n
    rw [right_right, Nat.add_comm] at h
    rw [toList_spaces] at h ⊢
    exact .space h

/-- What a walk writes is laid out by the pieces that it places, and its cursor passes over it. -/
theorem Writes.laidOut (h : Writes w cs w') :
    ∃ ps, w'.pieces = w.pieces ++ ps ∧ LaidOut w.cursor ps cs ∧ w'.cursor = w.cursor.after cs := by
  induction h with
  | nil w => exact ⟨[], by simp, .nil _, rfl⟩
  | space _ ih =>
    obtain ⟨ps, hps, hlaid, hcursor⟩ := ih
    exact ⟨ps, hps, .space hlaid, hcursor⟩
  | @place w w' s cs _ ih =>
    obtain ⟨ps, hps, hlaid, hcursor⟩ := ih
    refine ⟨⟨w.cursor, s⟩ :: ps, ?_, .piece hlaid, ?_⟩
    · rw [hps, Walk.place, List.append_assoc]
      rfl
    · rw [hcursor, Cursor.after_append]
      rfl

end Walk

end TemplateProjection
