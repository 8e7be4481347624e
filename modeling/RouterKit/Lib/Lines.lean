import RouterKit.Lib.PyText

/-!
Lines and words of a text: `str.splitlines()` and `str.split()`.
-/

namespace RouterKit.Lib.PyText

/-- The characters `str.splitlines` ends a line at. -/
def isLineBreak (c : Char) : Bool :=
  let n := c.toNat
  (0x0a ≤ n && n ≤ 0x0d) || (0x1c ≤ n && n ≤ 0x1e) || n = 0x85 || n = 0x2028 || n = 0x2029

/-- The lines of a text behind the characters, last one first, of the line that is
being read; a carriage return before a newline ends no line of its own. -/
def linesFrom (line : List Char) : List Char → List (List Char)
  | [] => if line = [] then [] else [line.reverse]
  | c :: rest =>
      if c = '\r' ∧ rest.head? = some '\n' then linesFrom line rest
      else if isLineBreak c then line.reverse :: linesFrom [] rest
      else linesFrom (c :: line) rest

/-- `str.splitlines()`. -/
def splitLines (text : List Char) : List (List Char) := linesFrom [] text

/-- `str.split()`. -/
def words (text : List Char) : List (List Char) :=
  (text.splitOnP isSpace).filter (· ≠ [])

theorem words_append_space {word : List Char} {c : Char} (hne : word ≠ [])
    (hword : ∀ d ∈ word, isSpace d = false) (hc : isSpace c = true) (text : List Char) :
    words (word ++ c :: text) = word :: words text := by
  rw [words, List.splitOnP_append_cons_of_forall_mem hword c hc text,
    List.filter_cons_of_pos (by simpa using hne)]
  rfl

end RouterKit.Lib.PyText
