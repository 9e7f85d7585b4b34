import PrismaNest.Yaml.Token.Quoted

/-! Plain scalars.

A plain scalar is a row of runs of characters with spaces and line breaks between
them. It ends at a colon that a space follows, at a comment, at a line that is
indented too little, and inside brackets also at the characters that separate items.
-/

set_option autoImplicit false

namespace PrismaNest.Yaml

def isBracket (c : Char) : Bool :=
  c = '[' || c = ']' || c = '{' || c = '}'

def endsRun (flow : Bool) (c : Char) (rest : List Char) : Bool :=
  isGap c || isBreak c
    || (c = ':' && (atGap rest || (flow && rest.head?.any fun d => d = ',' || isBracket d)))
    || (flow && (c = ',' || c = '?' || isBracket c))

def takeRun (flow : Bool) : List Char → List Char × List Char
  | [] => ([], [])
  | c :: rest =>
    if endsRun flow c rest then ([], c :: rest)
    else
      let (run, after) := takeRun flow rest
      (c :: run, after)

theorem length_takeRun (flow : Bool) (text : List Char) :
    (takeRun flow text).1.length + (takeRun flow text).2.length = text.length := by
  induction text with
  | nil => simp [takeRun]
  | cons c rest ih =>
    unfold takeRun
    split
    · simp
    · simp only [List.length_cons]
      omega

structure PlainSpace where
  /-- What the space stands for; nothing if the scalar ends here. -/
  text : List Char
  /-- The column after the last line break, if there is one. -/
  column : Option Nat
  rest : List Char

def takePlainBreaks (breaks : List Char) (column : Nat) : List Char → PlainSpace
  | [] => ⟨folded (breaks.headD '\n') (breaks.drop 1), some column, []⟩
  | c :: rest =>
    if c = ' ' then takePlainBreaks breaks (column + 1) rest
    else if isBreak c then
      if atDocumentMark rest then ⟨[], some 0, rest⟩ else takePlainBreaks (breaks ++ [c]) 0 rest
    else ⟨folded (breaks.headD '\n') (breaks.drop 1), some column, c :: rest⟩

def takePlainSpace (text : List Char) : PlainSpace :=
  let spaces := text.takeWhile (· = ' ')
  match text.dropWhile (· = ' ') with
  | [] => ⟨spaces, none, []⟩
  | c :: rest =>
    if !isBreak c then ⟨spaces, none, c :: rest⟩
    else if atDocumentMark rest then ⟨[], some 0, rest⟩
    else takePlainBreaks [c] 0 rest

theorem length_takePlainBreaks_le (breaks : List Char) (column : Nat) (text : List Char) :
    (takePlainBreaks breaks column text).rest.length ≤ text.length := by
  induction text generalizing breaks column with
  | nil => simp [takePlainBreaks]
  | cons c rest ih =>
    unfold takePlainBreaks
    split
    · exact Nat.le_succ_of_le (ih _ _)
    · split
      · split
        · simp
        · exact Nat.le_succ_of_le (ih _ _)
      · simp

theorem length_takePlainSpace_le (text : List Char) :
    (takePlainSpace text).rest.length ≤ text.length := by
  have bound := (List.dropWhile_suffix (l := text) (· = ' ')).length_le
  unfold takePlainSpace
  dsimp only
  split
  · simp
  · rename_i c rest dropped
    rw [dropped] at bound
    simp only [List.length_cons] at bound
    split
    · simpa using bound
    · split
      · dsimp only
        omega
      · exact Nat.le_trans (length_takePlainBreaks_le _ _ _) (by omega)

/-- A plain scalar that was read, whether its last space held a line break, and the rest. -/
structure PlainScalar where
  text : List Char
  crossed : Bool
  rest : List Char

/-- A plain scalar from one of its runs on, given the space in front of the run. Outside of
brackets, further lines reach at least some column. -/
def takePlain (flow : Bool) (least : Int) (before : List Char) (crossed : Bool)
    (text : List Char) : PlainScalar :=
  let run := takeRun flow text
  if started : text.head? == some '#' || run.1.isEmpty then ⟨[], crossed, text⟩
  else
    let space := takePlainSpace run.2
    let short := !flow && space.column.any fun column => (column : Int) < least
    if space.text.isEmpty || space.rest.head? == some '#' || short then
      ⟨before ++ run.1, space.column.isSome, space.rest⟩
    else
      have : space.rest.length < text.length := by
        have whole := length_takeRun flow text
        have bound := length_takePlainSpace_le (takeRun flow text).2
        have nonempty : 0 < (takeRun flow text).1.length := by
          simp only [Bool.or_eq_true, not_or, Bool.not_eq_true] at started
          exact List.length_pos_iff.mpr (by simpa using started.2)
        show (takePlainSpace (takeRun flow text).2).rest.length < text.length
        omega
      let more := takePlain flow least space.text space.column.isSome space.rest
      { more with text := before ++ run.1 ++ more.text }
termination_by text.length

end PrismaNest.Yaml
