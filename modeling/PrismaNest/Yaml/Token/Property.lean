import PrismaNest.Text.Utf8
import PrismaNest.Yaml.Token.Block

/-! Anchors, aliases, tags and directives. -/

set_option autoImplicit false

namespace PrismaNest.Yaml

abbrev Taken := Read (Token × List Char)

def endsName (text : List Char) : Bool :=
  atGap text || text.head?.any fun c => "?:,]\x7d%@\x60".toList.contains c

def takeName (token : String → Token) (text : List Char) : Taken :=
  let name := text.takeWhile isWordChar
  let rest := text.dropWhile isWordChar
  if name.isEmpty || !endsName rest then malformed
  else .ok (token (String.ofList name), rest)

def isTagChar (c : Char) : Bool :=
  c.isAlphanum || "-;/?:@&=+$,_.!~*\x27()[]".toList.contains c

/-- Bytes given by percent signs and two hexadecimal digits each. -/
def takeEscapedBytes : List Char → Read (List UInt8 × List Char)
  | '%' :: a :: b :: rest =>
    match Text.digitsValue? 16 [a, b] with
    | none => malformed
    | some byte => (takeEscapedBytes rest).map fun (bytes, after) => (UInt8.ofNat byte :: bytes, after)
  | '%' :: _ => malformed
  | text => .ok ([], text)

def takeSuffix (text : List Char) : Read (List Char × List Char) :=
  match text with
  | [] => .ok ([], [])
  | c :: rest =>
    if c = '%' then
      match takeEscapedBytes (c :: rest) with
      | .error fault => .error fault
      | .ok (bytes, after) =>
        match Text.decodeUtf8 (ByteArray.mk bytes.toArray) with
        | .error _ => malformed
        | .ok decoded =>
          if after.length < (c :: rest).length then
            (takeSuffix after).map fun (suffix, last) => (decoded.toList ++ suffix, last)
          else malformed
    else if isTagChar c then
      (takeSuffix rest).map fun (suffix, last) => (c :: suffix, last)
    else .ok ([], c :: rest)
termination_by text.length
decreasing_by all_goals (simp only [List.length_cons] at *; omega)

def takeSomeSuffix (text : List Char) : Read (List Char × List Char) := do
  let (suffix, rest) ← takeSuffix text
  if rest.length = text.length then malformed else return (suffix, rest)

/-- The handle of a tag: one exclamation mark, or two with a name between them. -/
def takeHandle : List Char → Read (List Char × List Char)
  | '!' :: rest =>
    if rest.head? == some ' ' then .ok (['!'], rest)
    else
      let name := rest.takeWhile isWordChar
      match rest.dropWhile isWordChar with
      | '!' :: after => .ok ('!' :: name ++ ['!'], after)
      | _ => malformed
  | _ => malformed

/-- Whether another exclamation mark comes before the next space. -/
def namesHandle (text : List Char) : Bool :=
  match text with
  | [] => false
  | c :: rest => if c = ' ' || isBreak c then false else c = '!' || namesHandle rest

def takeTag (text : List Char) : Taken := do
  let (handle, suffix, rest) : Option (List Char) × List Char × List Char ←
    match text with
    | '<' :: body => do
      match ← takeSomeSuffix body with
      | (suffix, '>' :: rest) => pure (none, suffix, rest)
      | _ => malformed
    | text => do
      if atGap text then pure (none, ['!'], text)
      else if namesHandle text then do
        let (handle, after) ← takeHandle ('!' :: text)
        let (suffix, rest) ← takeSomeSuffix after
        pure (some handle, suffix, rest)
      else do
        let (suffix, rest) ← takeSomeSuffix text
        pure (some ['!'], suffix, rest)
  if atSpace rest then return (.tag (handle.map String.ofList) (String.ofList suffix), rest)
  else malformed

def takeNumber (text : List Char) : Read (Nat × List Char) :=
  let digits := text.takeWhile Char.isDigit
  if Text.maxIntegerDigits < digits.length then .error (.scalar (.longInteger digits.length))
  else match Text.digitsValue? 10 digits with
  | some number =>
    if digits.isEmpty then malformed else .ok (number, text.dropWhile Char.isDigit)
  | none => malformed

def takeVersion (text : List Char) : Taken := do
  match ← takeNumber (text.dropWhile (· = ' ')) with
  | (major, '.' :: after) =>
    let (minor, rest) ← takeNumber after
    if atSpace rest then return (.version major minor, rest) else malformed
  | _ => malformed

def takeTagHandle (text : List Char) : Taken := do
  let (handle, after) ← takeHandle (text.dropWhile (· = ' '))
  if after.head? != some ' ' then malformed
  else
    let (start, rest) ← takeSomeSuffix (after.dropWhile (· = ' '))
    if atSpace rest then return (.tagHandle (String.ofList handle) (String.ofList start), rest)
    else malformed

/-- A directive, after its percent sign, and what follows its line. -/
def takeDirective (text : List Char) : Taken := do
  let name := text.takeWhile isWordChar
  let after := text.dropWhile isWordChar
  if name.isEmpty || !atSpace after then malformed
  else
    let (token, rest) : Token × List Char ←
      if name = "YAML".toList then takeVersion after
      else if name = "TAG".toList then takeTagHandle after
      else pure (.directive, after.dropWhile (!isBreak ·))
    return (token, ← takeLineEnd rest)

end PrismaNest.Yaml
