import PrismaNest.Yaml.Token

/-! Block scalars.

The header says how line breaks are treated: kept or folded into spaces, and whether
those at the end are clipped to one, stripped or kept. The content is what is
indented to the same column as its first line, or to a column that the header gives.
-/

set_option autoImplicit false

namespace PrismaNest.Yaml

/-- What happens to the line breaks at the end of a block scalar. -/
inductive Chomping where
  | clip
  | strip
  | keep
  deriving DecidableEq, Repr

structure BlockHeader where
  chomping : Chomping
  /-- Additional indentation of the content, if it is given. -/
  increment : Option Nat
  deriving DecidableEq, Repr

namespace BlockHeader

def chomping? : List Char → Chomping × List Char
  | '-' :: rest => (.strip, rest)
  | '+' :: rest => (.keep, rest)
  | text => (.clip, text)

def increment? : List Char → Option Nat × List Char
  | c :: rest => if c.isDigit then (some (c.toNat - '0'.toNat), rest) else (none, c :: rest)
  | [] => (none, [])

/-- The header after its first character, and the text after its two signs in either order. -/
def take (text : List Char) : Read (BlockHeader × List Char) :=
  let (header, rest) : BlockHeader × List Char :=
    match increment? text with
    | (some increment, after) =>
      let (chomping, rest) := chomping? after
      (⟨chomping, some increment⟩, rest)
    | (none, _) =>
      let (chomping, after) := chomping? text
      if chomping = .clip then (⟨.clip, none⟩, text)
      else
        let (increment, rest) := increment? after
        (⟨chomping, increment⟩, rest)
  if header.increment = some 0 || !atSpace rest then malformed else .ok (header, rest)

end BlockHeader

def takeLineEnd (text : List Char) : Read (List Char) :=
  let spaced := text.dropWhile (· = ' ')
  let rest := if spaced.head? == some '#' then spaced.dropWhile (!isBreak ·) else spaced
  if atBreak rest then .ok (rest.drop 1) else malformed

/-- Line breaks in front of a content, the column where it starts, and the content itself. -/
structure Lead where
  breaks : List Char
  column : Nat
  rest : List Char

/-- The breaks up to a line that reaches some indentation or holds other text. -/
def takeLead (indent column : Nat) : List Char → Lead
  | [] => ⟨[], column, []⟩
  | c :: rest =>
    if c = ' ' && column < indent then takeLead indent (column + 1) rest
    else if isBreak c then
      let lead := takeLead indent 0 rest
      { lead with breaks := c :: lead.breaks }
    else ⟨[], column, c :: rest⟩

theorem length_takeLead_le (indent column : Nat) (text : List Char) :
    (takeLead indent column text).rest.length ≤ text.length := by
  induction text generalizing column with
  | nil => simp [takeLead]
  | cons c rest ih =>
    unfold takeLead
    split
    · exact Nat.le_succ_of_le (ih _)
    · split
      · exact Nat.le_succ_of_le (ih _)
      · simp

def nextLead (indent : Nat) (text : List Char) : Lead :=
  takeLead indent 0 ((text.dropWhile (!isBreak ·)).drop 1)

theorem length_nextLead_le (indent : Nat) (text : List Char) :
    (nextLead indent text).rest.length ≤ text.length := by
  have bound := length_takeLead_le indent 0 ((text.dropWhile (!isBreak ·)).drop 1)
  have dropped := (List.dropWhile_suffix (l := text) (!isBreak ·)).length_le
  simp only [List.length_drop] at bound
  unfold nextLead
  omega

/-- The breaks up to the first other text, and the greatest column that spaces reach. -/
def takeWidest (column widest : Nat) : List Char → Lead × Nat
  | [] => (⟨[], column, []⟩, widest)
  | c :: rest =>
    if c = ' ' then takeWidest (column + 1) (max widest (column + 1)) rest
    else if isBreak c then
      let (lead, greatest) := takeWidest 0 widest rest
      ({ lead with breaks := c :: lead.breaks }, greatest)
    else (⟨[], column, c :: rest⟩, widest)

/-- The content of a block scalar up to its last line, the break that ends this line, the breaks
after it, and the rest of the text. -/
structure BlockContent where
  text : List Char
  lastBreak : List Char
  lead : Lead

/-- What joins two lines: a break, or nothing if folding drops it, or a space. -/
def lineJoint (fold : Bool) (first : List Char) (lineBreak more next : List Char) : List Char :=
  let indented (line : List Char) : Bool := line.head?.any isGap
  if fold && lineBreak = ['\n'] && !indented first && !indented next then
    if more.isEmpty then [' '] else []
  else lineBreak

def takeContent (fold : Bool) (indent : Nat) (lead : Lead) : BlockContent :=
  if lead.column = indent then
    match read : lead.rest with
    | [] => ⟨[], [], lead⟩
    | c :: rest =>
      let line := c :: rest.takeWhile (!isBreak ·)
      let lineBreak := (rest.dropWhile (!isBreak ·)).take 1
      let next := nextLead indent rest
      have : (nextLead indent rest).rest.length < lead.rest.length := by
        have := length_nextLead_le indent rest
        simp only [read, List.length_cons]
        omega
      if next.column = indent && !next.rest.isEmpty then
        let content := takeContent fold indent next
        { content with
          text := lead.breaks ++ line ++ lineJoint fold line lineBreak next.breaks next.rest
            ++ content.text }
      else ⟨lead.breaks ++ line, lineBreak, next⟩
  else ⟨[], [], lead⟩
termination_by lead.rest.length

/-- The text of a block scalar after its first character, and what follows it, inside a block
that is indented to some column. -/
def blockScalar (fold : Bool) (outer : Int) (text : List Char) : Read (List Char × List Char) := do
  let (header, after) ← BlockHeader.take text
  let body ← takeLineEnd after
  let least := (max 1 (outer + 1)).toNat
  let (lead, indent) :=
    match header.increment with
    | some increment =>
      let indent := least + increment - 1
      (takeLead indent 0 body, indent)
    | none =>
      let (lead, widest) := takeWidest 0 0 body
      (lead, max least widest)
  let content := takeContent fold indent lead
  let tail := match header.chomping with
    | .strip => []
    | .clip => content.lastBreak
    | .keep => content.lastBreak ++ content.lead.breaks
  return (content.text ++ tail, content.lead.rest)

end PrismaNest.Yaml
